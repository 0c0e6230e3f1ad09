import AlbumCatalog.Arguments.Level
import AlbumCatalog.Json.Number

/-!
# Values of arguments

What the arguments of one level say, checked as it is gathered. Nothing may be said twice.
-/

namespace AlbumCatalog

/-- Why arguments lead to no command: a fault, or a wish for help or for the version. -/
inductive ArgumentStop
  | unknownArgument
  | unknownCommand
  /-- A value is missing, or is none of those that are allowed. -/
  | invalidValue
  /-- A value is no number, or too large. -/
  | invalidNumber
  | missingOperand
  | unwantedValue
  | conflict
  | help
  | version
  deriving DecidableEq, Repr

def ArgumentStop.exitStatus : ArgumentStop → Nat
  | help | version => 0
  | _ => 2

/-- A number of 64 bits, which a plus sign may precede. -/
def readWordNumber (text : String) : Except ArgumentStop Nat :=
  let digits :=
    match text.toList with
    | '+' :: cs => cs
    | cs => cs
  if !digits.isEmpty && digits.all Char.isDigit && decimalValue digits ≤ largestWord then
    .ok (decimalValue digits)
  else .error .invalidNumber

def readPathValue (text : String) : Except ArgumentStop Path :=
  if text.isEmpty then .error .invalidValue else .ok ⟨text⟩

/-- The value that a word names, if the word is one of a few. -/
def readChoice {α : Type} (choice : Option α) : Except ArgumentStop α :=
  match choice with
  | some a => .ok a
  | none => .error .invalidValue

structure Gathered where
  switches : List Switch := []
  albums : Option Path := none
  filter : Option String := none
  sort : Option SortField := none
  limit : Option Nat := none
  offset : Option Nat := none
  expression : Option String := none
  source : Option Path := none
  shell : Option Shell := none

namespace Gathered

/-- Fails if something was said already. -/
def requireFirst {α : Type} (before : Option α) : Except ArgumentStop Unit :=
  if before.isSome then .error .conflict else .ok ()

def turnOn (g : Gathered) (s : Switch) : Except ArgumentStop Gathered :=
  if s ∈ g.switches then .error .conflict else .ok { g with switches := s :: g.switches }

def give (g : Gathered) (s : Setting) (text : String) : Except ArgumentStop Gathered :=
  match s with
  | .albums => do
    requireFirst g.albums
    return { g with albums := some (← readPathValue text) }
  | .filter => do
    requireFirst g.filter
    return { g with filter := some text }
  | .sort => do
    requireFirst g.sort
    return { g with sort := some (← readChoice (SortField.ofText? text)) }
  | .limit => do
    requireFirst g.limit
    return { g with limit := some (← readWordNumber text) }
  | .offset => do
    requireFirst g.offset
    return { g with offset := some (← readWordNumber text) }

def giveOperand (g : Gathered) (o : Operand) (text : String) : Except ArgumentStop Gathered :=
  match o with
  | .expression => .ok { g with expression := some text }
  | .source => do return { g with source := some (← readPathValue text) }
  | .shell => do return { g with shell := some (← readChoice (Shell.ofText? text)) }

/-- Looks at the album file that the environment names, unless the arguments name one. -/
def checkAlbums (g : Gathered) (environment : Option String) : Except ArgumentStop Unit :=
  match g.albums, environment with
  | none, some text => do discard (readPathValue text)
  | _, _ => .ok ()

def hasOperand (g : Gathered) : Operand → Bool
  | .expression => g.expression.isSome
  | .source => g.source.isSome
  | .shell => g.shell.isSome

/-- What a level must fulfil in the end. -/
def validate (g : Gathered) (l : Level) : Except ArgumentStop Unit :=
  if .verbose ∈ g.switches ∧ .quiet ∈ g.switches then .error .conflict
  else if l.operand?.all g.hasOperand then .ok ()
  else .error .missingOperand

end Gathered

end AlbumCatalog
