import AlbumCatalog.Pattern.Flags

/-!
# Escapes in a pattern

A backslash makes a sign stand for itself, or starts the code of a character, the name of a set of
characters or a condition on a place. Any other character behind it is an error, and so are the
digits that would refer back to a group.
-/

namespace AlbumCatalog

/-- What can stand in a pattern, where a class or a repetition is not meant. A character that is
written as a byte has two hexadecimal digits. -/
inductive PatternItem
  | literal (c : Char) (asByte : Bool)
  | set (s : CharSet)
  | look (condition : Look)
  deriving DecidableEq, Repr

namespace PatternItem

/-- The character of a literal. Without `unicode` no byte beyond ASCII stands for a character. -/
def char? (f : PatternFlags) : PatternItem → Option Char
  | literal c asByte => if asByte && !f.unicode && c.toNat ≥ 0x80 then none else some c
  | _ => none

/-- The expression of an item outside classes. -/
def regex? (f : PatternFlags) : PatternItem → Option Regex
  | literal c asByte =>
    ((literal c asByte).char? f).map fun c => .char (f.fold (.singleton c.toNat))
  | set s => some (.char s)
  | look condition => some (.look condition)

end PatternItem

/-- The character with a code, if there is one. -/
def charOfCode? (n : Nat) : Option Char :=
  if h : n.isValidChar then some (Char.ofNatAux n h) else none

namespace PatternFlags

/-- Reads so many hexadecimal digits. -/
def hexDigits? (f : PatternFlags) : Nat → Nat → List Char → Option (Nat × List Char)
  | 0, value, cs => some (value, cs)
  | n + 1, value, cs =>
    match f.gap cs with
    | [] => none
    | c :: rest => (hexValue? c).bind fun d => f.hexDigits? n (16 * value + d) rest

/-- The code of a character, behind the letter that gives its number of digits. -/
def hexCode? (f : PatternFlags) (digits : Nat) (cs : List Char) :
    Option (PatternItem × List Char) :=
  match f.gap cs with
  | '\x7b' :: rest => do
    let (text, rest) ← f.braced false rest
    if text = [] ∨ ¬ text.all fun c => (hexValue? c).isSome then none
    let c ← charOfCode? (hexNumber text)
    some (.literal c false, rest)
  | cs => do
    let (code, rest) ← f.hexDigits? digits 0 cs
    let c ← charOfCode? code
    some (.literal c (digits == 2), rest)

/-- The set that the text between braces names: a word, or a property with its value. All signs
between the two mean the same. -/
def bracedSet? (text : List Char) : Option CharSet :=
  match splitAt ['!', '='] text with
  | some (property, value) => valueNamed? property value
  | none =>
    match splitAt [':'] text with
    | some (property, value) => valueNamed? property value
    | none =>
      match splitAt ['='] text with
      | some (property, value) => valueNamed? property value
      | none => wordNamed? text
where
  /-- The text before the first place where a sign stands, and after the sign. -/
  splitAt (sign : List Char) : List Char → Option (List Char × List Char)
    | [] => none
    | c :: cs =>
      if sign.isPrefixOf (c :: cs) then some ([], (c :: cs).drop sign.length)
      else (splitAt sign cs).map fun (before, after) => (c :: before, after)

/-- A set by its name, which is one letter or stands between braces. -/
def propertySet? (f : PatternFlags) (negated : Bool) (cs : List Char) :
    Option (PatternItem × List Char) := do
  let (set, rest) ← match f.gap cs with
    | [] => none
    | '\\' :: _ => none
    | '\x7b' :: rest => do
      let (text, rest) ← f.braced false rest
      some (bracedSet? text, rest)
    | c :: rest => some (wordNamed? [c], rest)
  let set ← set
  if f.unicode then
    let set ← f.foldAndNegate? negated set
    some (.set set, rest)
  else none

/-- A condition on the words around a place. A name in braces may follow; braces with something else
than a name are left, as they may be a repetition. -/
def wordBoundary? (f : PatternFlags) (cs : List Char) : Option (PatternItem × List Char) :=
  let item := fun edge => PatternItem.look (.word edge f.wordLetters)
  match cs with
  | '\x7b' :: rest =>
    match f.gap rest with
    | [] => none
    | c :: _ =>
      if c.isAlpha || c == '-' then do
        let (name, rest) ← f.braced false rest
        let edge ← match String.ofList name with
          | "start" => some .start
          | "end" => some .finish
          | "start-half" => some .startHalf
          | "end-half" => some .finishHalf
          | _ => none
        some (item edge, rest)
      else some (item .boundary, cs)
  | _ => some (item .boundary, cs)

/-- The signs that may be written behind a backslash: those of ASCII that are no letters or digits,
except the angle brackets. -/
def isEscapable (c : Char) : Bool :=
  c.toNat < 0x80 && !c.isAlphanum && c != '<' && c != '>'

/-- Reads what follows a backslash. -/
def escape? (f : PatternFlags) : List Char → Option (PatternItem × List Char)
  | [] => none
  | c :: cs =>
    let self := fun (c : Char) => some (PatternItem.literal c false, cs)
    let among := fun (s : CharSet) => some (PatternItem.set s, cs)
    let outside := fun (s : CharSet) => (f.outside? s).map fun s => (PatternItem.set s, cs)
    let place := fun (look : Look) => some (PatternItem.look look, cs)
    match c with
    | 'x' => f.hexCode? 2 cs
    | 'u' => f.hexCode? 4 cs
    | 'U' => f.hexCode? 8 cs
    | 'p' => f.propertySet? false cs
    | 'P' => f.propertySet? true cs
    | 'd' => among f.digits
    | 's' => among f.whites
    | 'w' => among f.wordLetters
    | 'D' => outside f.digits
    | 'S' => outside f.whites
    | 'W' => outside f.wordLetters
    | 'a' => self '\x07'
    | 'f' => self '\x0c'
    | 't' => self '\t'
    | 'n' => self '\n'
    | 'r' => self '\r'
    | 'v' => self '\x0b'
    | 'A' => place .textStart
    | 'z' => place .textEnd
    | 'b' => f.wordBoundary? cs
    | 'B' => place (.word .inside f.wordLetters)
    | '<' => place (.word .start f.wordLetters)
    | '>' => place (.word .finish f.wordLetters)
    | c => if isEscapable c then self c else none

end PatternFlags

end AlbumCatalog
