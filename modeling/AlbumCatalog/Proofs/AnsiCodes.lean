import AlbumCatalog.Listing.Cell
import AlbumCatalog.Proofs.Digits
import Mathlib.Data.List.Basic
import Mathlib.Data.String.Basic

/-!
# Text without ANSI sequences

Styled text stands between two sequences. Taking the sequences out gives the text back, wherever it
stands, if it holds no escape character of its own. What tables add to the texts of a cell are
characters from the blank on, so escape characters and line feeds come from these texts alone.
-/

namespace AlbumCatalog

/-- An ANSI sequence ends with a character from `@` to `~`. -/
def endsCode (c : Char) : Bool :=
  '@' ≤ c && c ≤ '~'

/-- The text without the sequences, each of which begins with an escape character and a bracket. The
flag says whether the text begins within a sequence. -/
def withoutCodesFrom : Bool → List Char → List Char
  | _, [] => []
  | true, c :: cs => withoutCodesFrom (!endsCode c) cs
  | false, '\x1b' :: '[' :: cs => withoutCodesFrom true cs
  | false, c :: cs => c :: withoutCodesFrom false cs

def withoutCodes (cs : List Char) : List Char :=
  withoutCodesFrom false cs

/-- Whatever follows it, the first text without its sequences is the second one. -/
def StripsTo (s t : List Char) : Prop :=
  ∀ rest, withoutCodes (s ++ rest) = t ++ withoutCodes rest

lemma StripsTo.withoutCodes_eq {s t : List Char} (h : StripsTo s t) : withoutCodes s = t := by
  have hs := h []
  rwa [List.append_nil, show withoutCodes [] = [] from rfl, List.append_nil] at hs

lemma StripsTo.append {s s' t t' : List Char} (h : StripsTo s t) (h' : StripsTo s' t') :
    StripsTo (s ++ s') (t ++ t') := by
  intro rest
  rw [List.append_assoc, h, h', List.append_assoc]

lemma StripsTo.flatMap {α : Type} {f g : α → List Char} {xs : List α}
    (h : ∀ x ∈ xs, StripsTo (f x) (g x)) : StripsTo (xs.flatMap f) (xs.flatMap g) := by
  induction xs with
  | nil => exact fun _ => rfl
  | cons x xs ih =>
    rw [List.flatMap_cons, List.flatMap_cons]
    exact (h x List.mem_cons_self).append (ih fun y hy => h y (List.mem_cons_of_mem x hy))

lemma withoutCodes_cons {c : Char} (hc : c ≠ '\x1b') (cs : List Char) :
    withoutCodes (c :: cs) = c :: withoutCodes cs := by
  unfold withoutCodes
  rw [withoutCodesFrom]
  rintro - rfl
  exact absurd rfl hc

/-- Without escape characters there is nothing to take out. -/
lemma stripsTo_self {s : List Char} (h : '\x1b' ∉ s) : StripsTo s s := by
  intro rest
  induction s with
  | nil => rfl
  | cons c s ih =>
    rw [List.mem_cons, not_or] at h
    rw [List.cons_append, withoutCodes_cons (Ne.symm h.1), ih h.2, List.cons_append]

lemma Style.stripsTo_opening (style : Style) : StripsTo style.opening.toList [] := by
  intro rest
  cases style <;> rfl

lemma Style.stripsTo_closing (style : Style) : StripsTo style.closing.toList [] := by
  intro rest
  cases style <;> rfl

lemma Style.stripsTo_paint (style : Style) {s : List Char} (h : '\x1b' ∉ s) :
    StripsTo (style.paint s) s := by
  have hpainted := (style.stripsTo_opening.append (stripsTo_self h)).append style.stripsTo_closing
  rwa [List.nil_append, List.append_nil] at hpainted

/-- A line feed stands behind every line of a table. -/
lemma stripsTo_line {s t : List Char} (h : StripsTo s t) : StripsTo (s ++ ['\n']) (t ++ ['\n']) :=
  h.append (stripsTo_self (by decide))

/-- A table with a dimmed header and a line for each item is made plain line by line. -/
lemma stripsTo_table {α : Type} {header : List Char} (hheader : '\x1b' ∉ header)
    {f g : α → List Char} {xs : List α} (h : ∀ x ∈ xs, StripsTo (f x) (g x)) :
    StripsTo (Style.dimmed.paint header ++ '\n' :: xs.flatMap fun x => f x ++ ['\n'])
      (header ++ '\n' :: xs.flatMap fun x => g x ++ ['\n']) := by
  have hlines : StripsTo (xs.flatMap fun x => f x ++ ['\n']) (xs.flatMap fun x => g x ++ ['\n']) :=
    .flatMap fun x hx => stripsTo_line (h x hx)
  rw [List.append_cons, List.append_cons header]
  exact (stripsTo_line (Style.dimmed.stripsTo_paint hheader)).append hlines

/-! ### Control characters -/

section Control

variable {x : Char} (hx : x < ' ')

include hx

lemma ne_of_control {c : Char} (hc : ' ' ≤ c) : x ≠ c :=
  (hx.trans_le hc).ne

lemma not_mem_of_printable {s : List Char} (hs : s.all (' ' ≤ ·)) : x ∉ s := fun h =>
  hx.not_ge (of_decide_eq_true (List.all_eq_true.mp hs x h))

lemma not_isDigit_of_control : ¬ x.isDigit := by
  intro h
  rw [Char.isDigit, Bool.and_eq_true, decide_eq_true_eq] at h
  have hzero : '0' ≤ x := h.1
  exact (hx.trans_le (show ' ' ≤ '0' by decide)).not_ge hzero

lemma not_mem_decimal (n : Nat) : x ∉ decimal n := fun h =>
  not_isDigit_of_control hx (isDigit_of_mem_decimal n x h)

lemma not_mem_padRight {width : Nat} {s : List Char} (h : x ∉ s) : x ∉ padRight width s := by
  rw [padRight, List.mem_append, List.mem_replicate, not_or]
  exact ⟨h, fun hblank => ne_of_control hx le_rfl hblank.2⟩

end Control

end AlbumCatalog
