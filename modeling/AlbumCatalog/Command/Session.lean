import AlbumCatalog.Command.Error
import AlbumCatalog.Event

/-!
# Sessions

A session runs one command. It keeps what the command has written so far, also when the command
fails in the end.
-/

namespace AlbumCatalog

structure Report where
  /-- What the command was asked for. -/
  output : String := ""
  /-- Remarks on the work. -/
  notes : String := ""
  events : List Event := []

abbrev Session (m : Type → Type) : Type → Type :=
  ExceptT CommandError (StateT Report m)

namespace Session

variable {m : Type → Type} [Monad m]

def print (text : String) : Session m Unit :=
  modify fun r => { r with output := r.output ++ text }

def printLine (text : String) : Session m Unit :=
  print (text ++ "\n")

def note (text : String) : Session m Unit :=
  modify fun r => { r with notes := r.notes ++ text ++ "\n" }

def emit (events : List Event) : Session m Unit :=
  modify fun r => { r with events := r.events ++ events }

/-- Goes on with a result, or fails for its error. -/
def require {ε α : Type} (cause : ε → CommandError) (r : Except ε α) : Session m α :=
  ExceptT.mk (pure (r.mapError cause))

/-- Runs a step whose result is reported before the session goes on or fails. -/
def perform {ε α : Type} (cause : ε → CommandError) (events : Except ε α → List Event)
    (step : ExceptT ε m α) : Session m α := do
  let r ← step.run
  emit (events r)
  require cause r

/-- What a session reports, and whether it succeeds. -/
def run (s : Session m Unit) : m (Except CommandError Unit × Report) :=
  StateT.run (ExceptT.run s) {}

end Session

end AlbumCatalog
