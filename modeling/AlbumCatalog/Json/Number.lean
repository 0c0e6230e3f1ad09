import AlbumCatalog.Text.Number

/-!
# Numbers in JSON text

Reading a number decides whether it is an integer and whether it is too large for double precision.
Digits beyond what 64 bits hold only count for the magnitude.
-/

namespace AlbumCatalog

/-- Why a JSON text cannot be read: it breaks the grammar, it holds a wrong value, or it ends
early. -/
inductive JsonFault
  | grammar
  | data
  | ended
  deriving DecidableEq, Repr

def JsonFault.name : JsonFault → String
  | grammar => "Syntax"
  | data => "Data"
  | ended => "Eof"

/-- A number as far as its reader cares: an integer of 64 bits, or some other number. -/
inductive JsonNumber
  | integer (n : Int)
  | real
  deriving DecidableEq, Repr

def largestWord : Nat := 0xFFFFFFFFFFFFFFFF

/-- Appends digits to a significand while 64 bits hold it; the second part counts digits left
over. -/
def extendSignificand (n : Nat) : List Char → Nat × Nat
  | [] => (n, 0)
  | c :: cs =>
    if largestWord < 10 * n + digitValue c then (n, (c :: cs).length)
    else extendSignificand (10 * n + digitValue c) cs

/-- The nearest number of so many binary digits, of two the one with an even last digit. -/
def roundBinary (bits n : Nat) : Nat :=
  if n < Nat.pow 2 bits then n
  else
    let unit := Nat.pow 2 (n.log2 + 1 - bits)
    let q := n / unit
    let r := n % unit
    if unit < 2 * r ∨ (2 * r = unit ∧ q % 2 = 1) then (q + 1) * unit else q * unit

/-- Whether significand times power of ten is beyond the largest double. -/
def exceedsDouble (significand : Nat) (exponent : Int) : Bool :=
  if 308 < exponent then significand != 0
  else if exponent < 0 then false
  else
    (Nat.pow 2 54 - 1) * Nat.pow 2 970 ≤
      roundBinary 53 significand * roundBinary 53 (Nat.pow 10 exponent.toNat)

/-- The exponent mark, its digits and what lies behind them. Exponents are kept to 32 bits. -/
def readExponent (significand : Nat) (start : Int) (cs : List Char) :
    Except JsonFault (JsonNumber × List Char) :=
  let (negative, cs) :=
    match cs with
    | '-' :: rest => (true, rest)
    | '+' :: rest => (false, rest)
    | cs => (false, cs)
  match cs with
  | [] => .error .ended
  | c :: rest =>
    if c.isDigit then
      let digits := c :: rest.takeWhile Char.isDigit
      let exponent : Int := decimalValue digits
      let exponent := if negative then start - exponent else start + exponent
      if exceedsDouble significand exponent then .error .grammar
      else .ok (.real, rest.dropWhile Char.isDigit)
    else .error .grammar

/-- What follows the integer digits, of which so many were left over. -/
def readNumberTail (negative : Bool) (significand leftOver : Nat) (cs : List Char) :
    Except JsonFault (JsonNumber × List Char) :=
  match cs with
  | '.' :: rest =>
    let digits := rest.takeWhile Char.isDigit
    match digits, rest.dropWhile Char.isDigit with
    | [], [] => .error .ended
    | [], _ :: _ => .error .grammar
    | digits, rest =>
      let (significand, unused) := extendSignificand significand digits
      let start : Int := leftOver - (digits.length - unused)
      match rest with
      | 'e' :: more | 'E' :: more => readExponent significand start more
      | rest => if exceedsDouble significand start then .error .grammar else .ok (.real, rest)
  | 'e' :: rest | 'E' :: rest => readExponent significand leftOver rest
  | cs =>
    if leftOver = 0 then
      if negative then
        if significand = 0 ∨ 0x8000000000000000 < significand then .ok (.real, cs)
        else .ok (.integer (-significand), cs)
      else .ok (.integer significand, cs)
    else if exceedsDouble significand leftOver then .error .grammar
    else .ok (.real, cs)

/-- A number behind its sign. No zero may stand before other digits. -/
def readMagnitude (negative : Bool) (cs : List Char) : Except JsonFault (JsonNumber × List Char) :=
  match cs with
  | [] => .error .ended
  | '0' :: rest =>
    match rest with
    | c :: _ => if c.isDigit then .error .grammar else readNumberTail negative 0 0 rest
    | [] => readNumberTail negative 0 0 []
  | c :: rest =>
    if c.isDigit then
      let (significand, leftOver) := extendSignificand 0 (c :: rest.takeWhile Char.isDigit)
      readNumberTail negative significand leftOver (rest.dropWhile Char.isDigit)
    else .error .grammar

/-- A number that nobody needs, behind its sign: only its form counts. -/
def skipMagnitude (cs : List Char) : Except JsonFault (List Char) :=
  let afterInteger : Except JsonFault (List Char) :=
    match cs with
    | '0' :: rest =>
      match rest with
      | c :: _ => if c.isDigit then .error .grammar else .ok rest
      | [] => .ok []
    | c :: rest => if c.isDigit then .ok (rest.dropWhile Char.isDigit) else .error .grammar
    | [] => .error .grammar
  let skipDigits : List Char → Except JsonFault (List Char)
    | c :: rest => if c.isDigit then .ok (rest.dropWhile Char.isDigit) else .error .grammar
    | [] => .error .grammar
  let skipExponent : List Char → Except JsonFault (List Char)
    | '-' :: rest | '+' :: rest => skipDigits rest
    | rest => skipDigits rest
  match afterInteger with
  | .error e => .error e
  | .ok ('.' :: rest) =>
    match skipDigits rest with
    | .ok ('e' :: more) | .ok ('E' :: more) => skipExponent more
    | other => other
  | .ok ('e' :: rest) | .ok ('E' :: rest) => skipExponent rest
  | .ok rest => .ok rest

end AlbumCatalog
