import AlbumCatalog.Command.Program

/-!
# The command line

Runs the program on the files and the environment of the machine.
-/

namespace AlbumCatalog

/-- The error of the machine that has this number. -/
def FileError.ofNumber (number : Nat) (reason : String) : FileError :=
  match number with
  | 2 => .notFound
  | 13 => .permissionDenied
  | 16 => .busy
  | 17 => .alreadyExists
  | 20 => .notADirectory
  | 21 => .isADirectory
  | 36 => .nameTooLong
  | number => .system reason number

def FileError.ofMachine : IO.Error → FileError
  | .alreadyExists _ n s | .invalidArgument _ n s | .permissionDenied _ n s
  | .resourceExhausted _ n s | .inappropriateType _ n s | .noSuchThing _ n s => ofNumber n.toNat s
  | .interrupted _ n s | .noFileOrDirectory _ n s => ofNumber n.toNat s
  | .otherError n s | .resourceBusy n s | .resourceVanished n s | .unsupportedOperation n s
  | .hardwareFault n s | .unsatisfiedConstraints n s | .illegalOperation n s
  | .protocolError n s | .timeExpired n s => ofNumber n.toNat s
  | .unexpectedEof => .system "unexpected end of file" 0
  | .userError s => .system s 0

/-- An action on the machine, with its error as a value. -/
def onMachine {α : Type} (action : IO α) : ExceptT FileError IO α :=
  ExceptT.mk do
    match ← action.toBaseIO with
    | .ok a => pure (.ok a)
    | .error e => pure (.error (.ofMachine e))

/-- Whether the machine finds the place of a path. -/
def isPlace (text : String) : IO Bool := do
  match ← (IO.FS.realPath text).toBaseIO with
  | .ok _ => pure true
  | .error _ => pure false

instance : FileSystem IO where
  isPresent p := isPlace p.text
  isDirectory p := if p.text.isEmpty then pure false else isPlace (p.text ++ "/.")
  readText p := do
    match String.fromUTF8? (← onMachine (IO.FS.readBinFile p.text)) with
    | some text => pure text
    | none => throw .notText
  writeText p text := onMachine (IO.FS.writeFile p.text text)
  moveFile source target := onMachine (IO.FS.rename source.text target.text)
  makeDirectory p := onMachine (IO.FS.createDir p.text)

end AlbumCatalog

open AlbumCatalog in
def main (arguments : List String) : IO UInt32 := do
  let names := ["AQ_ALBUMS", "AQ_CONFIG", "XDG_CONFIG_HOME", "XDG_DATA_HOME", "HOME", "NO_COLOR"]
  let settings ← names.mapM fun name => return (name, ← IO.getEnv name)
  let env := Environment.ofVariables fun name => (settings.lookup name).join
  let outcome ← runProgram env arguments
  (← IO.getStdout).putStr outcome.output
  (← IO.getStderr).putStr outcome.errors
  return outcome.exitStatus.toUInt32
