/-!
# Sets of characters

A set of characters is given by ranges of code points, which may overlap and stand in any order.
The complement is the gaps between them, and the other operations follow from it.
-/

namespace AlbumCatalog

/-- The code points from the first to the last. -/
structure CodeRange where
  first : Nat
  last : Nat
  deriving DecidableEq, Repr

def CodeRange.contains (r : CodeRange) (n : Nat) : Bool :=
  r.first ≤ n && n ≤ r.last

structure CharSet where
  ranges : List CodeRange
  deriving DecidableEq, Repr

namespace CharSet

def lastCode : Nat := 0x10FFFF

def empty : CharSet := ⟨[]⟩

def all : CharSet := ⟨[⟨0, lastCode⟩]⟩

def singleton (n : Nat) : CharSet := ⟨[⟨n, n⟩]⟩

def contains (s : CharSet) (n : Nat) : Bool :=
  s.ranges.any (·.contains n)

def union (s t : CharSet) : CharSet :=
  ⟨s.ranges ++ t.ranges⟩

def unionAll (sets : List CharSet) : CharSet :=
  ⟨sets.flatMap (·.ranges)⟩

/-- The gaps from a code point on between ranges that are sorted by where they start. -/
def gapsFrom (low : Nat) : List CodeRange → List CodeRange
  | [] => if low ≤ lastCode then [⟨low, lastCode⟩] else []
  | r :: rs =>
    let gaps := gapsFrom (max low (r.last + 1)) rs
    if low < r.first then ⟨low, min (r.first - 1) lastCode⟩ :: gaps else gaps

def complement (s : CharSet) : CharSet :=
  ⟨gapsFrom 0 (s.ranges.mergeSort fun a b => a.first ≤ b.first)⟩

/-- The same set as the longest ranges in ascending order. -/
def canonical (s : CharSet) : CharSet :=
  s.complement.complement

def intersection (s t : CharSet) : CharSet :=
  (s.complement.union t.complement).complement

def difference (s t : CharSet) : CharSet :=
  (s.complement.union t).complement

def symmetricDifference (s t : CharSet) : CharSet :=
  (s.union t).difference (s.intersection t)

theorem contains_union (s t : CharSet) (n : Nat) :
    (s.union t).contains n = (s.contains n || t.contains n) := by
  simp [contains, union]

theorem contains_unionAll (sets : List CharSet) (n : Nat) :
    (unionAll sets).contains n = sets.any (·.contains n) := by
  simp [contains, unionAll, List.any_flatMap]

theorem any_gapsFrom_iff {n : Nat} (hn : n ≤ lastCode) (rs : List CodeRange) (low : Nat)
    (h : rs.Pairwise fun a b => a.first ≤ b.first) :
    (gapsFrom low rs).any (·.contains n) = true ↔ low ≤ n ∧ ∀ r ∈ rs, r.contains n = false := by
  induction rs generalizing low with
  | nil =>
    simp only [gapsFrom]
    split <;> simp [CodeRange.contains] <;> omega
  | cons r rs ih =>
    have hr : ∀ x ∈ rs, r.first ≤ x.first := fun _ hx => List.rel_of_pairwise_cons h hx
    have hbefore : n < r.first → ∀ x ∈ rs, x.contains n = false := by
      intro hlt x hx
      have := hr x hx
      simp only [CodeRange.contains, Bool.and_eq_false_iff, decide_eq_false_iff_not]
      omega
    have hrest := ih (max low (r.last + 1)) h.of_cons
    have hout : r.contains n = false ↔ n < r.first ∨ r.last < n := by
      simp only [CodeRange.contains, Bool.and_eq_false_iff, decide_eq_false_iff_not]
      omega
    simp only [gapsFrom, List.forall_mem_cons, hout]
    split
    · rw [List.any_cons, Bool.or_eq_true, hrest]
      simp only [CodeRange.contains, Bool.and_eq_true, decide_eq_true_eq]
      constructor
      · rintro (hgap | ⟨hlow, hall⟩)
        · exact ⟨hgap.1, Or.inl (by omega), hbefore (by omega)⟩
        · exact ⟨by omega, Or.inr (by omega), hall⟩
      · rintro ⟨hlow, hlt | hlt, hall⟩
        · exact Or.inl (by omega)
        · exact Or.inr ⟨by omega, hall⟩
    · rw [hrest]
      constructor
      · rintro ⟨hlow, hall⟩
        exact ⟨by omega, Or.inr (by omega), hall⟩
      · rintro ⟨hlow, hlt, hall⟩
        exact ⟨by omega, hall⟩

theorem pairwise_mergeSort_first (rs : List CodeRange) :
    (rs.mergeSort fun a b => a.first ≤ b.first).Pairwise fun a b => a.first ≤ b.first := by
  have h := @List.pairwise_mergeSort _ (fun a b : CodeRange => decide (a.first ≤ b.first))
    (by intro a b c; simp only [decide_eq_true_eq]; omega)
    (by intro a b; simp only [Bool.or_eq_true, decide_eq_true_eq]; omega) rs
  exact h.imp (by simp)

theorem contains_complement (s : CharSet) {n : Nat} (hn : n ≤ lastCode) :
    s.complement.contains n = !s.contains n := by
  have hs := any_gapsFrom_iff hn _ 0 (pairwise_mergeSort_first s.ranges)
  rw [Bool.eq_iff_iff]
  simp only [complement, contains, hs]
  simp [List.mem_mergeSort]

end CharSet

end AlbumCatalog
