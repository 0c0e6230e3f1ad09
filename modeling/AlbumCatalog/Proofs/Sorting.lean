import AlbumCatalog.Album.Sort
import AlbumCatalog.Proofs.CalendarOrder
import Mathlib.Data.List.Basic
import Mathlib.Data.List.Induction
import Mathlib.Data.String.Basic

/-!
# Sorting one time after another

A sort keeps albums with equal keys in the order in which it finds them, so what earlier sorts have
done stays visible in its ties. Albums are told apart by their places in the first list, of which
two albums never have the same, and so the order after any number of sorts has no ties at all.
-/

namespace AlbumCatalog

/-! ### Keys -/

namespace SortField

/-- The type of what the field sorts by. -/
def Key : SortField → Type
  | id => Int
  | name | owner | location => String
  | date => Instant

instance (field : SortField) : LinearOrder field.Key :=
  match field with
  | id => inferInstanceAs (LinearOrder Int)
  | name | owner | location => inferInstanceAs (LinearOrder String)
  | date => inferInstanceAs (LinearOrder Instant)

def key (field : SortField) (a : Album) : field.Key :=
  match field with
  | id => a.id.val
  | name => a.name
  | owner => a.owner
  | date => a.createdAt
  | location => a.location

lemma le_iff_key {field : SortField} {a b : Album} :
    field.le a b ↔ field.key a ≤ field.key b := by
  cases field <;> exact decide_eq_true_iff

end SortField

namespace Sorting

/-- The keys put the first album before the second one, whatever their places are. -/
def Before (s : Sorting) (a b : Album) : Prop :=
  match s.order with
  | .normal => s.field.key a < s.field.key b
  | .reverse => s.field.key b < s.field.key a

def Ties (s : Sorting) (a b : Album) : Prop :=
  s.field.key a = s.field.key b

variable {s : Sorting} {a b c : Album}

lemma before_or_ties_of_le (h : s.le a b) : s.Before a b ∨ s.Ties a b := by
  obtain ⟨field, order⟩ := s
  cases order with
  | normal => exact lt_or_eq_of_le (SortField.le_iff_key.mp h)
  | reverse => exact (lt_or_eq_of_le (SortField.le_iff_key.mp h)).imp_right Eq.symm

lemma le_of_ties (h : s.Ties a b) : s.le b a := by
  obtain ⟨field, order⟩ := s
  cases order with
  | normal => exact SortField.le_iff_key.mpr (Eq.ge h)
  | reverse => exact SortField.le_iff_key.mpr (Eq.le h)

lemma le_trans (h : s.le a b) (h' : s.le b c) : s.le a c := by
  obtain ⟨field, order⟩ := s
  cases order with
  | normal =>
    exact SortField.le_iff_key.mpr ((SortField.le_iff_key.mp h).trans (SortField.le_iff_key.mp h'))
  | reverse =>
    exact SortField.le_iff_key.mpr ((SortField.le_iff_key.mp h').trans (SortField.le_iff_key.mp h))

lemma le_total (s : Sorting) (a b : Album) : s.le a b || s.le b a := by
  have htotal : ∀ a b, (s.field.le a b || s.field.le b a) = true := by
    intro a b
    rw [Bool.or_eq_true, SortField.le_iff_key, SortField.le_iff_key]
    exact LinearOrder.le_total _ _
  obtain ⟨field, order⟩ := s
  cases order with
  | normal => exact htotal a b
  | reverse => exact htotal b a

lemma Before.not_before_or_ties (h : s.Before a b) : ¬ (s.Before b a ∨ s.Ties b a) := by
  obtain ⟨field, order⟩ := s
  cases order with
  | normal => exact fun h' => h'.elim h.asymm h.ne'
  | reverse => exact fun h' => h'.elim h.asymm h.ne

end Sorting

/-! ### Places -/

/-- The order of albums with their places. The sort that was done last counts first, then the sort
before it and so on, and in the end the place. -/
def Precedes : List Sorting → Album × Nat → Album × Nat → Prop
  | [], x, y => x.2 < y.2
  | s :: earlier, x, y => s.Before x.1 y.1 ∨ s.Ties x.1 y.1 ∧ Precedes earlier x y

lemma Precedes.asymm {sorts : List Sorting} {x y : Album × Nat} (h : Precedes sorts x y) :
    ¬ Precedes sorts y x := by
  induction sorts with
  | nil => exact Nat.lt_asymm h
  | cons s earlier ih =>
    rcases h with hbefore | ⟨hties, hearlier⟩
    · exact fun h' => hbefore.not_before_or_ties (h'.imp_right And.left)
    · rintro (hbefore | ⟨-, hearlier'⟩)
      · exact hbefore.not_before_or_ties (Or.inr hties)
      · exact ih hearlier hearlier'

/-- The albums with their places, in the order that the sorts give, the last of them counting
first. -/
structure Arranged (sorts : List Sorting) (albums : List Album) (arranged : List (Album × Nat)) :
    Prop where
  perm : arranged.Perm albums.zipIdx
  ordered : arranged.Pairwise (Precedes sorts.reverse)

lemma Arranged.unique {sorts : List Sorting} {albums : List Album}
    {arranged arranged' : List (Album × Nat)} (h : Arranged sorts albums arranged)
    (h' : Arranged sorts albums arranged') : arranged = arranged' :=
  List.Perm.eq_of_pairwise (fun _ _ _ _ hxy hyx => absurd hyx hxy.asymm) h.ordered h'.ordered
    (h.perm.trans h'.perm.symm)

/-! ### Stability -/

section Stable

variable {α : Type} (le : α → α → Bool) {l : List α}

lemma zipIdx_places_lt (l : List α) : l.zipIdx.Pairwise fun x y => x.2 < y.2 := by
  have hplaces : (l.zipIdx.map Prod.snd).Pairwise (· < ·) := by
    rw [List.zipIdx_map_snd]
    exact List.pairwise_lt_range'
  exact List.pairwise_map.mp hplaces

/-- A sort leaves ties in the order in which it finds them. -/
lemma pairwise_mergeSort_of_pairwise (htrans : ∀ a b c, le a b → le b c → le a c)
    (htotal : ∀ a b, le a b || le b a) {R : α → α → Prop} (h : l.Pairwise R) :
    (l.mergeSort le).Pairwise fun a b => le a b ∧ (le b a → R a b) := by
  have hsorted := List.pairwise_mergeSort (List.zipIdxLE_trans htrans) (List.zipIdxLE_total htotal)
    l.zipIdx
  have hperm := List.mergeSort_perm l.zipIdx (List.zipIdxLE le)
  have hne : l.zipIdx.Pairwise fun x y => x.2 ≠ y.2 := (zipIdx_places_lt l).imp Nat.ne_of_lt
  have hplaces := hperm.symm.pairwise hne fun h => h.symm
  rw [← List.mergeSort_zipIdx, List.pairwise_map]
  refine (hsorted.and hplaces).imp_of_mem ?_
  rintro ⟨a, i⟩ ⟨b, j⟩ hx hy ⟨hle, hne⟩
  have ha := List.mk_mem_zipIdx_iff_getElem?.mp (hperm.mem_iff.mp hx)
  have hb := List.mk_mem_zipIdx_iff_getElem?.mp (hperm.mem_iff.mp hy)
  obtain ⟨hi, rfl⟩ := List.getElem?_eq_some_iff.mp ha
  obtain ⟨hj, rfl⟩ := List.getElem?_eq_some_iff.mp hb
  simp only [List.zipIdxLE] at hle
  split at hle
  · rename_i hab
    refine ⟨hab, fun hba => ?_⟩
    rw [if_pos hba, decide_eq_true_eq] at hle
    exact List.pairwise_iff_getElem.mp h i j hi hj (Nat.lt_of_le_of_ne hle hne)
  · cases hle

end Stable

/-! ### Sorts in a row -/

/-- One more sort moves the albums with their places in the same way. -/
lemma Arranged.sort {sorts : List Sorting} {albums : List Album} {arranged : List (Album × Nat)}
    (h : Arranged sorts albums arranged) (s : Sorting) :
    ∃ arranged', Arranged (sorts ++ [s]) albums arranged' ∧
      arranged'.map Prod.fst = sortAlbums s (arranged.map Prod.fst) := by
  refine ⟨arranged.mergeSort fun x y => s.le x.1 y.1, ⟨?_, ?_⟩, ?_⟩
  · exact (List.mergeSort_perm _ _).trans h.perm
  · have hstable := pairwise_mergeSort_of_pairwise (fun x y => s.le x.1 y.1)
      (fun _ _ _ => Sorting.le_trans) (fun _ _ => s.le_total _ _) h.ordered
    rw [List.reverse_append, List.reverse_singleton]
    refine hstable.imp fun {x y} ⟨hle, hearlier⟩ => ?_
    rcases Sorting.before_or_ties_of_le hle with hbefore | hties
    · exact Or.inl hbefore
    · exact Or.inr ⟨hties, hearlier (Sorting.le_of_ties hties)⟩
  · exact List.map_mergeSort fun _ _ _ _ => rfl

lemma exists_arranged (sorts : List Sorting) (albums : List Album) :
    ∃ arranged, Arranged sorts albums arranged ∧
      arranged.map Prod.fst = sorts.foldl (fun sorted s => sortAlbums s sorted) albums := by
  induction sorts using List.reverseRecOn with
  | nil =>
    exact ⟨albums.zipIdx, ⟨List.Perm.refl _, zipIdx_places_lt albums⟩,
      List.zipIdx_map_fst 0 albums⟩
  | append_singleton sorts s ih =>
    obtain ⟨arranged, harranged, hsorted⟩ := ih
    obtain ⟨arranged', harranged', hsorted'⟩ := harranged.sort s
    refine ⟨arranged', harranged', ?_⟩
    rw [hsorted', hsorted, List.foldl_append]
    rfl

/-- Whatever sorts are done one after another, they give the only arrangement of the albums in which
the field of the last sort decides first, in its direction, then that of the sort before it, and so
on back to the first one, and between albums with the same keys in all of them the place in the
first list. -/
theorem sorts_in_a_row_are_lexicographic (sorts : List Sorting) (albums : List Album) :
    ∃ arranged, Arranged sorts albums arranged ∧
      (∀ arranged', Arranged sorts albums arranged' → arranged' = arranged) ∧
      sorts.foldl (fun sorted s => sortAlbums s sorted) albums = arranged.map Prod.fst := by
  obtain ⟨arranged, harranged, hsorted⟩ := exists_arranged sorts albums
  exact ⟨arranged, harranged, fun _ h => h.unique harranged, hsorted.symm⟩

/-- Of two albums with the same name and the same owner the one that came first stays first, also
where the owners are in reverse. -/
theorem reversed_sort_keeps_ties :
    let album := fun id name owner => (⟨id, name, "", "", owner,
      .midnight ⟨2022, 2, 1, by decide⟩, [], [], []⟩ : Album)
    let q := album ⟨1, by decide⟩ "b" "x"
    let p := album ⟨2, by decide⟩ "a" "x"
    let r := album ⟨3, by decide⟩ "a" "x"
    let s := album ⟨4, by decide⟩ "c" "y"
    let sorts : List Sorting := [⟨.name, .normal⟩, ⟨.owner, .reverse⟩]
    Arranged sorts [q, p, r, s] [(s, 3), (p, 1), (r, 2), (q, 0)] ∧
      sorts.foldl (fun sorted s => sortAlbums s sorted) [q, p, r, s] = [s, p, r, q] := by
  intro album q p r s sorts
  have harranged : Arranged sorts [q, p, r, s] [(s, 3), (p, 1), (r, 2), (q, 0)] := by
    have hxy : "x" < "y" := by decide
    have hab : "a" < "b" := by decide
    refine ⟨by decide, ?_⟩
    simp only [List.pairwise_cons, List.forall_mem_cons, List.not_mem_nil, false_implies,
      implies_true, and_true, List.Pairwise.nil]
    have hrest : Precedes sorts.reverse (p, 1) (r, 2) ∧ Precedes sorts.reverse (p, 1) (q, 0) :=
      ⟨.inr ⟨rfl, .inr ⟨rfl, Nat.lt_succ_self 1⟩⟩, .inr ⟨rfl, .inl hab⟩⟩
    exact ⟨⟨.inl hxy, .inl hxy, .inl hxy⟩, hrest, .inr ⟨rfl, .inl hab⟩⟩
  obtain ⟨arranged, -, hunique, hsorted⟩ := sorts_in_a_row_are_lexicographic sorts [q, p, r, s]
  rw [hsorted, ← hunique _ harranged]
  exact ⟨harranged, rfl⟩

end AlbumCatalog
