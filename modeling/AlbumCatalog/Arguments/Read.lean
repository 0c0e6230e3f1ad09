import AlbumCatalog.Arguments.Gathered

/-!
# Reading arguments

Arguments are read word by word. A value is looked at only when the next argument is met or the
level ends, so of two faults the later one can win. A level is complete when the levels below it
are.
-/

namespace AlbumCatalog

/-- An argument whose value is not looked at yet. -/
inductive Pending
  | nothing
  /-- A setting, whose value may be yet to come. -/
  | setting (s : Setting) (value : Option String)
  | operand (o : Operand) (text : String)

structure LevelState where
  gathered : Gathered := {}
  pending : Pending := .nothing
  /-- Whether only operands may follow. -/
  trailing : Bool := false
  /-- Whether the operand of the level was met. -/
  operandMet : Bool := false

namespace LevelState

/-- The setting that waits for its value. -/
def awaiting? (st : LevelState) : Option Setting :=
  match st.pending with
  | .setting s none => some s
  | _ => none

/-- Looks at the value that is pending. -/
def settle (st : LevelState) : Except ArgumentStop LevelState :=
  match st.pending with
  | .nothing => .ok st
  | .setting _ none => .error .invalidValue
  | .setting s (some text) => do
    return { st with gathered := ← st.gathered.give s text, pending := .nothing }
  | .operand o text => do
    return { st with gathered := ← st.gathered.giveOperand o text, pending := .nothing }

/-- Takes an argument, with the value that is joined to it. -/
def takeMark (st : LevelState) (mark : Mark) (joined : Option String) :
    Except ArgumentStop LevelState :=
  match mark, joined with
  | .setting s, some text => do
    let st ← st.settle
    return { st with gathered := ← st.gathered.give s text }
  | .setting s, none => do return { ← st.settle with pending := .setting s none }
  | _, some _ => .error .unwantedValue
  | .switch s, none => do
    let st ← st.settle
    return { st with gathered := ← st.gathered.turnOn s }
  | .help, none => do
    discard st.settle
    .error .help
  | .version, none => do
    discard st.settle
    .error .version

/-- Takes a name behind two dashes, with the value behind its equals sign. -/
def takeName (st : LevelState) (l : Level) (name : String) (joined : Option String) :
    Except ArgumentStop LevelState :=
  match l.mark? name with
  | none => .error .unknownArgument
  | some mark => st.takeMark mark joined

/-- Takes letters behind one dash. What follows the letter of a setting is its value. -/
def takeLetters (l : Level) : LevelState → List Char → Except ArgumentStop LevelState
  | st, [] => .ok st
  | st, c :: cs =>
    match l.letter? c with
    | none => .error .unknownArgument
    | some (.setting s) =>
      match cs with
      | [] => st.takeMark (.setting s) none
      | '=' :: value => st.takeMark (.setting s) (some (String.ofList value))
      | value => st.takeMark (.setting s) (some (String.ofList value))
    | some mark => do takeLetters l (← st.takeMark mark none) cs

/-- What is wrong with a word that a level has no place for. -/
def misplaced (st : LevelState) (l : Level) (word : String) : ArgumentStop :=
  if st.trailing && (l.subcommand? word).isSome then .unknownArgument
  else if l.hasCommands then .unknownCommand
  else .unknownArgument

/-- Takes a word without dashes, or one behind two lone dashes. -/
def takeWord (st : LevelState) (l : Level) (word : String) : Except ArgumentStop LevelState :=
  match l.operand?, st.operandMet with
  | some o, false => do
    let st ← st.settle
    return { st with pending := .operand o word, operandMet := true }
  | _, _ => .error (st.misplaced l word)

/-- Splits a name from the value behind its first equals sign. -/
def splitValue (cs : List Char) : String × Option String :=
  let name := String.ofList (cs.takeWhile (· ≠ '='))
  match cs.dropWhile (· ≠ '=') with
  | [] => (name, none)
  | _ :: value => (name, some (String.ofList value))

/-- Takes a word that names no command. -/
def take (st : LevelState) (l : Level) (word : String) : Except ArgumentStop LevelState :=
  if st.trailing then st.takeWord l word
  else
    match word.toList with
    | ['-', '-'] => .ok { st with trailing := true }
    | '-' :: '-' :: cs =>
      let (name, value) := splitValue cs
      st.takeName l name value
    | '-' :: c :: cs => takeLetters l st (c :: cs)
    | _ =>
      match st.awaiting? with
      | some s => .ok { st with pending := .setting s (some word) }
      | none => st.takeWord l word

/-- What the level says in the end. -/
def finish (st : LevelState) (l : Level) (albums : Option String) :
    Except ArgumentStop Gathered := do
  let st ← st.settle
  st.gathered.checkAlbums albums
  st.gathered.validate l
  return st.gathered

end LevelState

/-- The answer to a call for help on the command that some words name. -/
def helpOn : Level → List String → ArgumentStop
  | _, [] => .help
  | l, word :: words =>
    match l.subcommand? word with
    | some (.level sub) => helpOn sub words
    | some .help => if words.isEmpty then .help else .unknownCommand
    | none => .unknownCommand

/-- What each level says, from the program down to the command. The album file of the environment
counts on each level that names none. -/
def readLevels (albums : Option String) :
    List String → Level → LevelState → Except ArgumentStop (List (Level × Gathered))
  | [], l, st => do return [(l, ← st.finish l albums)]
  | word :: words, l, st =>
    let command := if st.trailing || st.awaiting?.isSome then none else l.subcommand? word
    match command with
    | some .help => .error (helpOn l words)
    | some (.level sub) => do
      let below ← readLevels albums words sub {}
      return (l, ← st.finish l albums) :: below
    | none => do readLevels albums words l (← st.take l word)

/-- The flags of all levels together. Of two album files the one of the lower level counts, and one
that the arguments name counts before that of the environment. -/
def flagsOfLevels (albums : Option String) (levels : List (Level × Gathered)) : Flags :=
  let has (s : Switch) := levels.any fun (_, g) => decide (s ∈ g.switches)
  { verbose := has .verbose
    quiet := has .quiet
    json := has .json
    noColor := has .noColor
    albums := (levels.filterMap fun (_, g) => g.albums).getLast? <|> albums.map Path.mk }

def listOptions (g : Gathered) : ListOptions where
  filter := g.filter
  sort := g.sort
  reverse := decide (.reverse ∈ g.switches)
  limit := g.limit
  offset := g.offset.getD 0
  strict := decide (.strict ∈ g.switches)

/-- The command of the lowest level. -/
def commandOfLevel (l : Level) (g : Gathered) : Option Command :=
  match l with
  | .program => none
  | .check => g.expression.map .check
  | .tokens => g.expression.map .tokens
  | .list => some (.list (listOptions g))
  | .importing => g.source.map .importing
  | .config | .configShow => some (.config .showing)
  | .configPath => some (.config .path)
  | .configInit => some (.config (.writing (decide (.force ∈ g.switches))))
  | .completions => g.shell.map .completions

/-- The invocation that arguments ask for, with the album file that the environment names. -/
def Invocation.ofArguments (albums : Option String) (arguments : List String) :
    Except ArgumentStop Invocation := do
  let levels ← readLevels albums arguments .program {}
  let command := levels.getLast?.bind fun (l, g) => commandOfLevel l g
  return ⟨flagsOfLevels albums levels, command⟩

end AlbumCatalog
