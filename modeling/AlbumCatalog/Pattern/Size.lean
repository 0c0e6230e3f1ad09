import AlbumCatalog.Pattern.Expression
import AlbumCatalog.Text.Characters

/-!
# The size of an expression

A pattern may not be too large. Its size is the number of bytes that a machine for it takes which
reads UTF-8 bytes, with a state for every byte to be read and every choice; repetitions with counts
are written out.

The size is an estimate. Alternatives of more than one character are counted one by one, where a
machine can share what they start with, so a pattern near `sizeLimit` may be refused although a
smaller machine for it would be within the limit.
-/

namespace AlbumCatalog

/-- A range of values of one byte. -/
abbrev ByteRange := Nat × Nat

/-- Splits a range of numbers with so many continuation digits to the base of 64 behind the first
digit into products of ranges of digits. -/
def digitProducts : Nat → Nat → Nat → List (List ByteRange)
  | 0, first, last => [[(first, last)]]
  | n + 1, first, last =>
    let block := Nat.pow 64 (n + 1)
    let (low, high) := (first / block, last / block)
    if low = high then (digitProducts n (first % block) (last % block)).map ((low, low) :: ·)
    else
      let cutsLow := first % block ≠ 0
      let cutsHigh := last % block ≠ block - 1
      let head := (digitProducts n (first % block) (block - 1)).map ((low, low) :: ·)
      let tail := (digitProducts n 0 (last % block)).map ((high, high) :: ·)
      let from' := if cutsLow then low + 1 else low
      let to' := if cutsHigh then high - 1 else high
      (if cutsLow then head else []) ++
        (if from' ≤ to' then [(from', to') :: List.replicate (n + 1) (0, 63)] else []) ++
        (if cutsHigh then tail else [])

/-- The code points of each length in UTF-8: the first, the last, the number of bytes after the
first, and the first of those bytes for zero. -/
def encodingLengths : List (Nat × Nat × Nat × Nat) :=
  [(0, 0x7F, 0, 0), (0x80, 0x7FF, 1, 0xC0), (0x800, 0xD7FF, 2, 0xE0), (0xE000, 0xFFFF, 2, 0xE0),
    (0x10000, 0x10FFFF, 3, 0xF0)]

/-- The products of ranges of bytes that write the characters of a range. -/
def encodedProducts (r : CodeRange) : List (List ByteRange) :=
  encodingLengths.flatMap fun (first, last, more, lead) =>
    if max first r.first ≤ min last r.last then
      (digitProducts more (max first r.first) (min last r.last)).map
        (·.modifyHead fun (a, b) => (a + lead, b + lead))
    else []

/-- How many items two lists have in common at the start. -/
def commonStart : List ByteRange → List ByteRange → Nat
  | a :: as, b :: bs => if a = b then commonStart as bs + 1 else 0
  | _, _ => 0

/-- The states for products in ascending order, which share what neighbours have in common. -/
def productStates (products : List (List ByteRange)) : Nat :=
  totalOf (fun (p, before) => p.length - commonStart p before) (products.zip ([] :: products))

def stateSize : Nat := 32

def choiceSize : Nat := 4

def rangeSize : Nat := 8

/-- A choice between byte sequences. -/
def productsSize (products : List (List ByteRange)) : Nat :=
  2 * stateSize + stateSize * productStates products + choiceSize * products.length

/-- The size of a set: a state for each byte of a single character, one state with all ranges for
characters of ASCII, and a choice of byte sequences in general. -/
def CharSet.size (s : CharSet) : Nat :=
  match s.canonical.ranges with
  | [] => stateSize
  | [⟨first, last⟩] =>
    if first = last then stateSize * (Char.ofNat first).utf8Size
    else if last < 0x80 then 2 * stateSize + rangeSize
    else productsSize (encodedProducts ⟨first, last⟩)
  | ranges =>
    if ranges.all (·.last < 0x80) then 2 * stateSize + rangeSize * ranges.length
    else productsSize (ranges.flatMap encodedProducts)

/-- The size of a repetition, from the size of what is repeated. -/
def repeatedSize (body : Nat) (something : Bool) : Nat → Option Nat → Nat
  | _, some 0 => stateSize
  | 0, some 1 => 2 * stateSize + 2 * choiceSize + body
  | 0, none =>
    if something then stateSize + 2 * choiceSize + body else 3 * stateSize + 4 * choiceSize + body
  | least, none => least * body + stateSize + 2 * choiceSize
  | least, some most =>
    if least = most then least * body
    else (if least = 0 then stateSize else least * body) + stateSize +
      (most - least) * (stateSize + 2 * choiceSize + body)

namespace Regex

/-- The size of an expression. Choices in a row are one choice, so that those after the first take
no state of their own. -/
def sizeWithin (inChoice : Bool) : Regex → Nat
  | empty => entry + stateSize
  | char set => entry + set.size
  | look _ => entry + stateSize
  | sequence r s => entry + r.sizeWithin false + s.sizeWithin false
  | either r s =>
    (if inChoice then 0 else 2 * stateSize) + choiceSize + r.sizeWithin false + s.sizeWithin true
  | repeated r least most =>
    if r.takesNothing then
      entry + repeatedSize (r.sizeWithin false) false (min least 1) (some (min (most.getD 1) 1))
    else entry + repeatedSize (r.sizeWithin false) r.takesSomething least most
  | captured r => entry + 2 * stateSize + r.sizeWithin false
where
  entry : Nat := if inChoice then choiceSize else 0

/-- The states around an expression: those that start at any place, and those that mark the whole
part found. -/
def frameSize : Nat := 5 * stateSize + 2 * choiceSize

def size (r : Regex) : Nat :=
  r.sizeWithin false + frameSize

end Regex

/-- The greatest size of a pattern by this estimate, in bytes. -/
def sizeLimit : Nat := 10 * 1024 * 1024

end AlbumCatalog
