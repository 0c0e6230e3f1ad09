import AlbumCatalog.Calendar.Date
import AlbumCatalog.Text.Characters
import AlbumCatalog.Text.Number

/-!
# Days written as day, month and year

A day is written `dd/mm/yyyy`. Years outside 0 to 9999 have a sign. Reading is more lenient than
writing: numbers may be shorter, and white space may stand before each of them.
-/

namespace AlbumCatalog

/-- A year of at least four digits, with a sign when it is not in 0 to 9999. -/
def yearText (year : Int) : List Char :=
  if year < 0 then '-' :: padded 4 year.natAbs
  else if year < 10000 then padded 4 year.natAbs
  else '+' :: padded 4 year.natAbs

/-- A year of one to four digits, or of any number of digits after a sign. -/
def readYear (cs : List Char) : Option (Int × List Char) :=
  match skipWhite cs with
  | '-' :: cs => (readNumber cs.length cs).map fun (n, rest) => (-n, rest)
  | '+' :: cs => (readNumber cs.length cs).map fun (n, rest) => (n, rest)
  | cs => (readNumber 4 cs).map fun (n, rest) => (n, rest)

/-- A number of one or two digits. -/
def readField (cs : List Char) : Option (Nat × List Char) :=
  readNumber 2 (skipWhite cs)

/-- The text after one given character. -/
def readMark (mark : Char) : List Char → Option (List Char)
  | c :: rest => if c = mark then some rest else none
  | [] => none

/-- The day that a text names, if the whole text names one. -/
def Date.ofDayText? (cs : List Char) : Option Date := do
  let (day, cs) ← readField cs
  let cs ← readMark '/' cs
  let (month, cs) ← readField cs
  let cs ← readMark '/' cs
  let (year, cs) ← readYear cs
  if cs.isEmpty then Date.of? year month day else none

def Date.dayText (d : Date) : List Char :=
  padded 2 d.day ++ '/' :: padded 2 d.month ++ '/' :: yearText d.year

end AlbumCatalog
