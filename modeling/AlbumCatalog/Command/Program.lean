import AlbumCatalog.Arguments.Read
import AlbumCatalog.Command.Run

/-!
# The program

A run of the program turns arguments into an invocation, runs it, and says in the end why it failed.
-/

namespace AlbumCatalog

/-- What a run leaves behind beside its files. -/
structure Outcome where
  exitStatus : Nat
  output : String
  errors : String
  deriving DecidableEq, Repr

/-- The outcome of a session. -/
def Outcome.ofSession (asJson : Bool) : Except CommandError Unit × Report → Outcome
  | (.ok (), r) => ⟨0, r.output, r.notes⟩
  | (.error e, r) => ⟨e.exitStatus, r.output, r.notes ++ e.report asJson⟩

/-- Runs the program. Arguments that lead to no command end it with a status alone. -/
def runProgram {m : Type → Type} [Monad m] [FileSystem m] (env : Environment)
    (arguments : List String) : m Outcome :=
  match Invocation.ofArguments env.albums arguments with
  | .error stop => pure ⟨stop.exitStatus, "", ""⟩
  | .ok i => Outcome.ofSession i.flags.json <$> (i.session env).run

end AlbumCatalog
