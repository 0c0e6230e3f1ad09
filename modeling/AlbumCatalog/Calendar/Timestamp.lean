import AlbumCatalog.Calendar.DayText
import AlbumCatalog.Calendar.Instant

/-!
# Instants as text

An instant is written as in RFC 3339, in UTC, with as many groups of three fraction digits as it
needs. Reading takes other offsets too, numbers without their leading zeros, and blanks between
most of the parts.
-/

namespace AlbumCatalog

/-- The part of the second as decimals, in three, six or nine digits, or none if it is zero. -/
def fractionText (nano : Nat) : List Char :=
  if nano = 0 then []
  else if nano % 1000000 = 0 then '.' :: padded 3 (nano / 1000000)
  else if nano % 1000 = 0 then '.' :: padded 6 (nano / 1000)
  else '.' :: padded 9 nano

namespace Instant

/-- The instant up to its fraction. A leap second is written as the second 60. -/
def text (t : Instant) : List Char :=
  let leap := nanosInSecond ≤ t.nano
  yearText t.date.year ++ '-' :: padded 2 t.date.month ++ '-' :: padded 2 t.date.day ++
    'T' :: padded 2 (t.second / 3600) ++ ':' :: padded 2 (t.second / 60 % 60) ++
    ':' :: padded 2 (if leap then t.second % 60 + 1 else t.second % 60) ++
    fractionText (if leap then t.nano - nanosInSecond else t.nano)

/-- The instant in UTC with the short mark of that offset. -/
def zuluText (t : Instant) : List Char :=
  t.text ++ ['Z']

/-- The instant in UTC with the offset written out. -/
def offsetText (t : Instant) : List Char :=
  t.text ++ "+00:00".toList

/-- The instant that so many seconds, fewer than a day's, lie before. -/
def minusSeconds? (date : Date) (second nano : Nat) (offset : Int) : Option Instant := do
  let shifted := (second : Int) - offset
  let date ←
    if shifted < 0 then date.previous?
    else if shifted < secondsInDay then some date
    else date.next?
  let second := (shifted % secondsInDay).toNat
  if h : IsTime second nano then some ⟨date, second, nano, h⟩ else none

end Instant

/-- Nanoseconds from up to nine decimals; further decimals are cut off. -/
def readFraction : List Char → Option (Nat × List Char)
  | '.' :: cs => do
    let (n, rest) ← readNumber 9 cs
    let digits := cs.length - rest.length
    some (n * Nat.pow 10 (9 - digits), rest.dropWhile Char.isDigit)
  | cs => some (0, cs)

def isZulu (c : Char) : Bool :=
  c == 'Z' || c == 'z'

/-- The sign of an offset: a plus, a hyphen or a minus. -/
def readSign : List Char → Option (Int × List Char)
  | '+' :: cs => some (1, cs)
  | '-' :: cs => some (-1, cs)
  | '−' :: cs => some (-1, cs)
  | _ => none

/-- A number of exactly two digits. -/
def readPair : List Char → Option (Nat × List Char)
  | a :: b :: rest =>
    if a.isDigit && b.isDigit then some (decimalValue [a, b], rest) else none
  | _ => none

/-- Seconds east of UTC: the word UTC, the letter Z, or a sign with hours and minutes. -/
def readOffset (cs : List Char) : Option (Int × List Char) :=
  if (cs.take 3).map Char.toUpper = ['U', 'T', 'C'] then some (0, cs.drop 3)
  else
    match cs with
    | [] => none
    | c :: rest =>
      if isZulu c then some (0, rest)
      else do
        let (sign, cs) ← readSign cs
        let (hours, cs) ← readPair cs
        let (minutes, cs) ← readPair (cs.dropWhile fun c => c == ':' || isWhite c)
        if minutes < 60 then some (sign * (hours * 3600 + minutes * 60 : Nat), cs) else none

/-- One of the marks between the date and the time of day. -/
def readDateEnd : List Char → Option (List Char)
  | 'T' :: cs | 't' :: cs | ' ' :: cs => some cs
  | _ => none

/-- The instant that a text gives, if the whole text gives one. -/
def Instant.ofText? (cs : List Char) : Option Instant := do
  let (year, cs) ← readYear cs
  let cs ← readMark '-' (skipWhite cs)
  let (month, cs) ← readField cs
  let cs ← readMark '-' (skipWhite cs)
  let (day, cs) ← readField cs
  let cs ← readDateEnd cs
  let (hour, cs) ← readField cs
  let cs ← readMark ':' (skipWhite cs)
  let (minute, cs) ← readField cs
  let cs ← readMark ':' (skipWhite cs)
  let (second, cs) ← readField cs
  let (nano, cs) ← readFraction cs
  let (offset, cs) ← readOffset (skipWhite cs)
  let date ← Date.of? year month day
  if hour < 24 ∧ minute < 60 ∧ second ≤ 60 ∧ offset.natAbs < secondsInDay ∧
      (skipWhite cs).isEmpty then
    let dayMinute := hour * 60 + minute
    if second = 60 then
      Instant.minusSeconds? date (dayMinute * 60 + 59) (nano + nanosInSecond) offset
    else Instant.minusSeconds? date (dayMinute * 60 + second) nano offset
  else none

end AlbumCatalog
