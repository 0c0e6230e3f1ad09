import AlbumCatalog.Pattern.Expression
import AlbumCatalog.Text.Characters
import AlbumCatalog.Unicode.CaseVariant
import AlbumCatalog.Unicode.Name

/-!
# Flags of a pattern

Flags are letters that say how a part of a pattern is read: whether case matters, what a dot and the
ends of lines are, whether blanks and comments are skipped, and whether characters beyond ASCII
count. Without `unicode` no set may reach beyond ASCII.
-/

namespace AlbumCatalog

/-- The letters are `i`, `m`, `s`, `R`, `u` and `x`, in this order. -/
structure PatternFlags where
  ignoreCase : Bool
  manyLines : Bool
  dotTakesLines : Bool
  returns : Bool
  unicode : Bool
  spaced : Bool
  deriving DecidableEq, Repr

namespace PatternFlags

def start : PatternFlags :=
  ⟨false, false, false, false, true, false⟩

/-- Sets the flag of a letter. The letter `U` turns round which repetition is tried first, which
does not change what is found. -/
def set (f : PatternFlags) (on : Bool) : Char → PatternFlags
  | 'i' => { f with ignoreCase := on }
  | 'm' => { f with manyLines := on }
  | 's' => { f with dotTakesLines := on }
  | 'R' => { f with returns := on }
  | 'u' => { f with unicode := on }
  | 'x' => { f with spaced := on }
  | _ => f

def letters : List Char :=
  ['i', 'm', 's', 'U', 'u', 'R', 'x']

/-- Whether no character comes twice. -/
def allDistinct : List Char → Bool
  | [] => true
  | c :: cs => !cs.contains c && allDistinct cs

/-- Changes flags as a word of letters says: those behind a hyphen are turned off. No letter may
come twice, and a letter must follow the hyphen. -/
def change? (f : PatternFlags) (word : List Char) : Option PatternFlags :=
  if allDistinct word && word.all (fun c => letters.contains c || c == '-') &&
      word.getLast? != some '-' then
    let on := word.takeWhile (· != '-')
    let off := word.dropWhile (· != '-')
    some (off.foldl (·.set false) (on.foldl (·.set true) f))
  else none

/-- Skips blanks and comments, which run to the end of their line. -/
def skipSpaced (inComment : Bool) : List Char → List Char
  | [] => []
  | c :: cs =>
    if inComment then skipSpaced (c != '\n') cs
    else if isWhite c then skipSpaced false cs
    else if c == '#' then skipSpaced true cs
    else c :: cs

/-- Skips what may stand between two parts of a pattern. -/
def gap (f : PatternFlags) (cs : List Char) : List Char :=
  if f.spaced then skipSpaced false cs else cs

/-- The text up to the closing brace, without blanks and comments where they are skipped, and what
follows the brace. -/
def braced (f : PatternFlags) (inComment : Bool) : List Char → Option (List Char × List Char)
  | [] => none
  | c :: cs =>
    if inComment then f.braced (c != '\n') cs
    else if c == '}' then some ([], cs)
    else if f.spaced && isWhite c then f.braced false cs
    else if f.spaced && c == '#' then f.braced true cs
    else (f.braced false cs).map fun (text, rest) => (c :: text, rest)

/-- The set with all variants of its characters where case does not matter. -/
def fold (f : PatternFlags) (s : CharSet) : CharSet :=
  if !f.ignoreCase then s else if f.unicode then s.withCaseVariants else s.withAsciiVariants

/-- The characters outside a set, which lie beyond ASCII too. -/
def outside? (f : PatternFlags) (s : CharSet) : Option CharSet :=
  if f.unicode then some s.complement else none

/-- A set whose case is settled before it is turned round. -/
def foldAndNegate? (f : PatternFlags) (negated : Bool) (s : CharSet) : Option CharSet :=
  if negated then f.outside? (f.fold s) else some (f.fold s)

def digits (f : PatternFlags) : CharSet :=
  if f.unicode then digitChars else ⟨[⟨0x30, 0x39⟩]⟩

def whites (f : PatternFlags) : CharSet :=
  if f.unicode then whiteChars else ⟨[⟨0x09, 0x0D⟩, ⟨0x20, 0x20⟩]⟩

def wordLetters (f : PatternFlags) : CharSet :=
  if f.unicode then wordChars
  else ⟨[⟨0x30, 0x39⟩, ⟨0x41, 0x5A⟩, ⟨0x5F, 0x5F⟩, ⟨0x61, 0x7A⟩]⟩

/-- The characters that a dot stands for. -/
def dot? (f : PatternFlags) : Option CharSet :=
  let ends := if f.dotTakesLines then [] else if f.returns then ['\r', '\n'] else ['\n']
  f.outside? ⟨ends.map fun c => ⟨c.toNat, c.toNat⟩⟩

def lineStart (f : PatternFlags) : Look :=
  if f.manyLines then .lineStart f.returns else .textStart

def lineEnd (f : PatternFlags) : Look :=
  if f.manyLines then .lineEnd f.returns else .textEnd

end PatternFlags

end AlbumCatalog
