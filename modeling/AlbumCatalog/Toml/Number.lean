import AlbumCatalog.Text.Number
import AlbumCatalog.Toml.Table

/-!
# TOML numbers

A number is an integer of 64 bits or a real number, of which only the form is kept. Single
underscores may stand between digits.
-/

namespace AlbumCatalog

/-- Digits of some kind, without the underscores between them. -/
def ungroupDigits? (isDigit : Char → Bool) : List Char → Option (List Char)
  | [] => none
  | [c] => if isDigit c then some [c] else none
  | c :: '_' :: cs => if isDigit c then (c :: ·) <$> ungroupDigits? isDigit cs else none
  | c :: cs => if isDigit c then (c :: ·) <$> ungroupDigits? isDigit cs else none

/-- A sign, if one is there, and the text behind it. -/
def splitSign : List Char → Bool × List Char
  | '-' :: cs => (true, cs)
  | '+' :: cs => (false, cs)
  | cs => (false, cs)

/-- Digits of which the first is no zero, unless it is the only one. -/
def plainDigits? (cs : List Char) : Option (List Char) :=
  match ungroupDigits? Char.isDigit cs with
  | some ('0' :: _ :: _) => none
  | digits => digits

def greatestInteger : Int := 0x7FFFFFFFFFFFFFFF

def leastInteger : Int := -0x8000000000000000

def tomlInteger? (n : Int) : Option Toml :=
  if leastInteger ≤ n ∧ n ≤ greatestInteger then some (.integer n) else none

/-- The integer that digits write to a base of 2, 8 or 16. -/
def basedInteger? (base : Nat) (cs : List Char) : Option Toml := do
  let digits ← ungroupDigits? (fun c => (hexValue? c).any (· < base)) cs
  tomlInteger? (digits.foldl (fun n c => base * n + (hexValue? c).getD 0) 0 : Nat)

def readInteger? (cs : List Char) : Option Toml :=
  match cs with
  | '0' :: 'x' :: digits => basedInteger? 16 digits
  | '0' :: 'o' :: digits => basedInteger? 8 digits
  | '0' :: 'b' :: digits => basedInteger? 2 digits
  | cs => do
    let (negative, cs) := splitSign cs
    let n : Int := decimalValue (← plainDigits? cs)
    tomlInteger? (if negative then -n else n)

/-- The least number that no double is nearest to. -/
def doubleBound : Nat := Nat.pow 2 1024 - Nat.pow 2 970

/-- Whether digits, times a power of ten, are too much for a double. -/
def isBeyondDouble (digits : List Char) (exponent : Int) : Bool :=
  let digits := digits.dropWhile (· == '0')
  let size := digits.length + exponent
  if digits.isEmpty || size < 309 then false
  else if 309 < size then true
  else
    doubleBound * Nat.pow 10 (-exponent).toNat ≤ decimalValue digits * Nat.pow 10 exponent.toNat

def isExponentMark (c : Char) : Bool :=
  c == 'e' || c == 'E'

/-- The exponent behind its mark; an empty text stands for none. -/
def readExponent? : List Char → Option Int
  | [] => some 0
  | c :: cs =>
    if isExponentMark c then do
      let (negative, cs) := splitSign cs
      let n : Int := decimalValue (← ungroupDigits? Char.isDigit cs)
      some (if negative then -n else n)
    else none

/-- The digits behind the point; an empty text stands for none. -/
def readFraction? : List Char → Option (List Char)
  | [] => some []
  | '.' :: cs => ungroupDigits? Char.isDigit cs
  | _ => none

/-- A real number has a point or an exponent, and is not too large for a double unless it is
negative. -/
def readReal? (cs : List Char) : Option Toml := do
  let (negative, cs) := splitSign cs
  if cs = ['i', 'n', 'f'] ∨ cs = ['n', 'a', 'n'] then some .real
  else
    let significand := cs.takeWhile (!isExponentMark ·)
    let mark := cs.dropWhile (!isExponentMark ·)
    let integer := significand.takeWhile (· ≠ '.')
    let point := significand.dropWhile (· ≠ '.')
    if mark.isEmpty && point.isEmpty then none
    else
      let whole ← plainDigits? integer
      let fraction ← readFraction? point
      let exponent ← readExponent? mark
      if !negative && isBeyondDouble (whole ++ fraction) (exponent - fraction.length) then none
      else some .real

end AlbumCatalog
