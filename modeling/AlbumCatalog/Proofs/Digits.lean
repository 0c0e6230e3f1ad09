import AlbumCatalog.Text.Characters
import AlbumCatalog.Text.Number
import Mathlib.Algebra.Group.Nat.Defs
import Mathlib.Data.List.Basic
import Mathlib.Data.List.TakeWhile
import Mathlib.Tactic.Lemma

/-!
# Digits and the numbers they write

What `decimal` and `padded` write holds digits only, has a known length and is read back by
`readNumber`, whatever text stands behind it that does not go on with a digit.
-/

namespace AlbumCatalog

lemma isDigit_digitChar {d : Nat} (h : d < 10) : (digitChar d).isDigit := by
  have hall : ∀ e ∈ List.range 10, (digitChar e).isDigit := by decide
  exact hall d (List.mem_range.mpr h)

lemma digitChar_ne_zero {d : Nat} (h : d < 10) (hd : d ≠ 0) : digitChar d ≠ '0' := by
  have hall : ∀ e ∈ List.range 10, e ≠ 0 → digitChar e ≠ '0' := by decide
  exact hall d (List.mem_range.mpr h) hd

/-! ### What is written -/

lemma decimal_of_lt {n : Nat} (h : n < 10) : decimal n = [digitChar n] := by
  rw [decimal, if_pos h]

lemma decimal_of_le {n : Nat} (h : 10 ≤ n) :
    decimal n = decimal (n / 10) ++ [digitChar (n % 10)] := by
  rw [decimal, if_neg (Nat.not_lt.mpr h)]

lemma decimal_ne_nil (n : Nat) : decimal n ≠ [] := by
  rw [decimal]
  split <;> simp

lemma isDigit_of_mem_decimal (n : Nat) : ∀ c ∈ decimal n, c.isDigit := by
  induction n using Nat.strong_induction_on with
  | _ n ih =>
    intro c hc
    by_cases hn : n < 10
    · rw [decimal_of_lt hn, List.mem_singleton] at hc
      exact hc ▸ isDigit_digitChar hn
    · rw [decimal_of_le (Nat.not_lt.mp hn), List.mem_append, List.mem_singleton] at hc
      rcases hc with hc | rfl
      · exact ih _ (by omega) c hc
      · exact isDigit_digitChar (by omega)

/-- Only the number zero is written with a zero at its start. -/
lemma head_decimal_ne_zero {n : Nat} (hn : n ≠ 0) : ∀ c ∈ (decimal n).head?, c ≠ '0' := by
  induction n using Nat.strong_induction_on with
  | _ n ih =>
    intro c hc
    by_cases hlt : n < 10
    · rw [decimal_of_lt hlt] at hc
      cases hc
      exact digitChar_ne_zero hlt hn
    · rw [decimal_of_le (Nat.not_lt.mp hlt), List.head?_append_of_ne_nil _ (decimal_ne_nil _)] at hc
      exact ih _ (by omega) (by omega) c hc

lemma length_decimal_le {n width : Nat} (h : n < 10 ^ width) (hwidth : 0 < width) :
    (decimal n).length ≤ width := by
  induction width generalizing n with
  | zero => omega
  | succ width ih =>
    by_cases hn : n < 10
    · rw [decimal_of_lt hn]
      simp
    · have hpos : 0 < width := by
        rcases Nat.eq_zero_or_pos width with rfl | hpos
        · omega
        · exact hpos
      have hrest := ih (n := n / 10) (by rw [Nat.pow_succ] at h; omega) hpos
      rw [decimal_of_le (Nat.not_lt.mp hn), List.length_append, List.length_singleton]
      omega

lemma isDigit_of_mem_padded (width n : Nat) : ∀ c ∈ padded width n, c.isDigit := by
  intro c hc
  rcases List.mem_append.mp hc with hc | hc
  · rw [List.eq_of_mem_replicate hc]
    rfl
  · exact isDigit_of_mem_decimal n c hc

lemma padded_ne_nil (width n : Nat) : padded width n ≠ [] := by
  simp [padded, decimal_ne_nil]

lemma length_padded {width n : Nat} (h : n < 10 ^ width) (hwidth : 0 < width) :
    (padded width n).length = width := by
  have hle := length_decimal_le h hwidth
  simp only [padded, List.length_append, List.length_replicate]
  omega

lemma decimalValue_zeros (k : Nat) (ds : List Char) :
    decimalValue (List.replicate k '0' ++ ds) = decimalValue ds := by
  induction k with
  | zero => rfl
  | succ k ih => exact ih

lemma decimalValue_padded (width n : Nat) : decimalValue (padded width n) = n := by
  rw [padded, decimalValue_zeros, decimalValue_decimal]

/-! ### Reading digits -/

lemma takeWhile_isDigit {ds rest : List Char} (hds : ∀ c ∈ ds, c.isDigit)
    (hrest : ∀ c ∈ rest.head?, c.isDigit = false) :
    (ds ++ rest).takeWhile Char.isDigit = ds ∧ (ds ++ rest).dropWhile Char.isDigit = rest := by
  rw [List.takeWhile_append_of_pos hds, List.dropWhile_append_of_pos hds]
  cases rest with
  | nil => simp
  | cons c rest => simp [hrest c rfl]

/-- Digits are read up to the greatest length, or up to a character that is no digit. -/
lemma readNumber_append {most : Nat} {ds rest : List Char} (hds : ∀ c ∈ ds, c.isDigit)
    (hne : ds ≠ []) (hlen : ds.length ≤ most)
    (hrest : ds.length = most ∨ ∀ c ∈ rest.head?, c.isDigit = false) :
    readNumber most (ds ++ rest) = some (decimalValue ds, rest) := by
  have htake : ((ds ++ rest).take most).takeWhile Char.isDigit = ds := by
    rw [List.take_append, List.take_of_length_le hlen]
    rcases hrest with hlen' | hrest
    · rw [hlen', Nat.sub_self, List.take_zero, List.append_nil]
      exact List.takeWhile_eq_self_iff.mpr hds
    · refine (takeWhile_isDigit hds ?_).1
      intro c hc
      rw [List.head?_take] at hc
      split at hc
      · cases hc
      · exact hrest c hc
  simp only [readNumber, htake, List.isEmpty_iff, hne, if_false, List.drop_left]

lemma readNumber_padded {width n : Nat} (h : n < 10 ^ width) (hwidth : 0 < width)
    (rest : List Char) : readNumber width (padded width n ++ rest) = some (n, rest) := by
  have hlen := length_padded h hwidth
  rw [readNumber_append (isDigit_of_mem_padded width n) (padded_ne_nil width n) hlen.le
    (Or.inl hlen), decimalValue_padded]

lemma not_isWhite_of_isDigit {c : Char} (h : c.isDigit) : isWhite c = false := by
  simp only [Char.isDigit, Bool.and_eq_true, decide_eq_true_eq] at h
  have hlow : 48 ≤ c.toNat := h.1
  have hhigh : c.toNat ≤ 57 := h.2
  simp only [isWhite, Bool.or_eq_false_iff, Bool.and_eq_false_iff, decide_eq_false_iff_not,
    beq_eq_false_iff_ne]
  omega

lemma skipWhite_of_head {cs : List Char} (h : ∀ c ∈ cs.head?, isWhite c = false) :
    skipWhite cs = cs := by
  cases cs with
  | nil => rfl
  | cons c cs => exact List.dropWhile_cons_of_neg (by simpa using h c rfl)

lemma skipWhite_digits {ds : List Char} (hds : ∀ c ∈ ds, c.isDigit) (hne : ds ≠ [])
    (rest : List Char) : skipWhite (ds ++ rest) = ds ++ rest := by
  apply skipWhite_of_head
  intro c hc
  rw [List.head?_append_of_ne_nil _ hne] at hc
  exact not_isWhite_of_isDigit (hds c (List.mem_of_mem_head? hc))

lemma skipWhite_padded (width n : Nat) (rest : List Char) :
    skipWhite (padded width n ++ rest) = padded width n ++ rest :=
  skipWhite_digits (isDigit_of_mem_padded width n) (padded_ne_nil width n) rest

end AlbumCatalog
