/-!
# Texts as lists of characters

The characters of a text are handled as a list. Here are white space, the occurrence of one text in
another, and the length of a text in bytes, in which positions in a filter are counted.
-/

namespace AlbumCatalog

/-! ## White space -/

/-- Whether the character has the Unicode property White_Space. -/
def isWhite (c : Char) : Bool :=
  let n := c.toNat
  (0x09 ≤ n && n ≤ 0x0D) || n == 0x20 || n == 0x85 || n == 0xA0 || n == 0x1680 ||
    (0x2000 ≤ n && n ≤ 0x200A) || n == 0x2028 || n == 0x2029 || n == 0x202F || n == 0x205F ||
    n == 0x3000

def skipWhite (cs : List Char) : List Char :=
  cs.dropWhile isWhite

/-- The text without white space at its end. -/
def trimEnd (cs : List Char) : List Char :=
  (cs.reverse.dropWhile isWhite).reverse

/-! ## Occurrence -/

/-- Whether the first list of characters stands somewhere in the second without a gap. -/
def occursIn (needle : List Char) : List Char → Bool
  | [] => needle.isEmpty
  | c :: cs => needle.isPrefixOf (c :: cs) || occursIn needle cs

theorem occursIn_iff_infix {needle cs : List Char} :
    occursIn needle cs = true ↔ needle <:+: cs := by
  induction cs with
  | nil => simp [occursIn]
  | cons c cs ih =>
    simp only [occursIn, Bool.or_eq_true, List.isPrefixOf_iff_prefix, ih]
    exact (List.infix_cons_iff).symm

/-! ## Totals and lengths -/

/-- The total of a measure over a list. -/
def totalOf {α : Type} (measure : α → Nat) : List α → Nat
  | [] => 0
  | x :: xs => measure x + totalOf measure xs

@[simp]
theorem totalOf_nil {α : Type} (measure : α → Nat) : totalOf measure [] = 0 := rfl

@[simp]
theorem totalOf_cons {α : Type} (measure : α → Nat) (x : α) (xs : List α) :
    totalOf measure (x :: xs) = measure x + totalOf measure xs := rfl

@[simp]
theorem totalOf_append {α : Type} (measure : α → Nat) (xs ys : List α) :
    totalOf measure (xs ++ ys) = totalOf measure xs + totalOf measure ys := by
  induction xs with
  | nil => simp
  | cons x xs ih => simp [ih, Nat.add_assoc]

/-- The number of bytes that the characters take in UTF-8. -/
def byteLength (cs : List Char) : Nat :=
  totalOf Char.utf8Size cs

@[simp]
theorem byteLength_nil : byteLength [] = 0 := rfl

@[simp]
theorem byteLength_cons (c : Char) (cs : List Char) :
    byteLength (c :: cs) = c.utf8Size + byteLength cs := by
  simp [byteLength]

@[simp]
theorem byteLength_append (cs ds : List Char) :
    byteLength (cs ++ ds) = byteLength cs + byteLength ds := by
  simp [byteLength]

end AlbumCatalog
