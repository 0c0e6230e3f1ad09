import AlbumCatalog.Calendar.Date
import AlbumCatalog.Text.Number

/-!
# TOML dates and times

Only the form of a date or time matters here: its digits, and that the date exists.
-/

namespace AlbumCatalog

/-- The number of two digits at the start, in some range, and the text behind it. -/
def readTwoDigits? (least most : Nat) : List Char → Option (Nat × List Char)
  | c :: d :: cs =>
    let n := decimalValue [c, d]
    if c.isDigit && d.isDigit && least ≤ n && n ≤ most then some (n, cs) else none
  | _ => none

/-- The text behind a character. -/
def skipMark? (mark : Char) : List Char → Option (List Char)
  | c :: cs => if c = mark then some cs else none
  | [] => none

/-- The text behind a date. -/
def skipDay? (cs : List Char) : Option (List Char) := do
  let year := cs.take 4
  if year.length = 4 ∧ year.all Char.isDigit then
    let (month, cs) ← readTwoDigits? 1 12 (← skipMark? '-' (cs.drop 4))
    let (day, cs) ← readTwoDigits? 1 31 (← skipMark? '-' cs)
    if day ≤ daysInMonth (decimalValue year) month then some cs else none
  else none

/-- The text behind a fraction of a second, if one is there. -/
def skipFraction? : List Char → Option (List Char)
  | '.' :: c :: cs => if c.isDigit then some (cs.dropWhile Char.isDigit) else none
  | '.' :: [] => none
  | cs => some cs

/-- The text behind a time of day. -/
def skipTime? (cs : List Char) : Option (List Char) := do
  let (_, cs) ← readTwoDigits? 0 23 cs
  let (_, cs) ← readTwoDigits? 0 59 (← skipMark? ':' cs)
  let (_, cs) ← readTwoDigits? 0 60 (← skipMark? ':' cs)
  skipFraction? cs

/-- Whether a text is an offset from universal time, or empty. -/
def isOffset : List Char → Bool
  | [] | ['Z'] | ['z'] => true
  | c :: cs =>
    (c == '+' || c == '-') &&
      match readTwoDigits? 0 23 cs with
      | some (_, ':' :: cs) => (readTwoDigits? 0 59 cs).any (·.2.isEmpty)
      | _ => false

def isDay (cs : List Char) : Bool :=
  skipDay? cs == some []

def isTime (cs : List Char) : Bool :=
  skipTime? cs == some []

def isTimeWithOffset (cs : List Char) : Bool :=
  (skipTime? cs).any isOffset

/-- Whether a word is a date, a time, or a date and a time with a letter between them. -/
def isMoment (cs : List Char) : Bool :=
  isDay cs || isTime cs ||
    match skipDay? cs with
    | some (c :: cs) => (c == 'T' || c == 't') && isTimeWithOffset cs
    | _ => false

end AlbumCatalog
