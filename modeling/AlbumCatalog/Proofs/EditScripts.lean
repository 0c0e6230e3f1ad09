import AlbumCatalog.Text.EditDistance
import Mathlib.Data.List.Basic
import Mathlib.Order.Bounds.Basic
import Mathlib.Order.MinMax
import Mathlib.Tactic.Lemma

/-!
# Edits and the distance between texts

An edit inserts, deletes or replaces one character anywhere in a text. The distance between two texts
is the least number of edits that lead from the one to the other: no edit brings a text nearer to its
target by more than one, and the rows that are built for the distance say which edit does.
-/

namespace AlbumCatalog

/-- One character is inserted, deleted or replaced. -/
inductive Edit : List Char → List Char → Prop
  | insert (before after : List Char) (c : Char) : Edit (before ++ after) (before ++ c :: after)
  | delete (before after : List Char) (c : Char) : Edit (before ++ c :: after) (before ++ after)
  | replace (before after : List Char) (c d : Char) :
      Edit (before ++ c :: after) (before ++ d :: after)

/-- So many edits lead from the first text to the second one. -/
inductive Edits : Nat → List Char → List Char → Prop
  | refl (s : List Char) : Edits 0 s s
  | step {n : Nat} {s t u : List Char} (first : Edit s t) (rest : Edits n t u) : Edits (n + 1) s u

/-! ### The distance by recursion -/

def listDistance (cs ds : List Char) : Nat :=
  (distanceRow cs ds).headD 0

lemma listDistance_nil_left (ds : List Char) : listDistance [] ds = ds.length := by
  cases ds <;> rfl

lemma distanceRow_cons_left (c : Char) (cs ds : List Char) :
    distanceRow (c :: cs) ds = extendRow c ds (distanceRow cs ds) :=
  rfl

lemma distanceRow_nil_right (cs : List Char) : distanceRow cs [] = [cs.length] := by
  induction cs with
  | nil => rfl
  | cons c cs ih =>
    rw [distanceRow_cons_left, ih]
    rfl

lemma listDistance_nil_right (cs : List Char) : listDistance cs [] = cs.length := by
  rw [listDistance, distanceRow_nil_right]
  rfl

/-- The row to a text goes on with the row to the text without its first character. -/
lemma distanceRow_cons_right (cs : List Char) (d : Char) (ds : List Char) :
    distanceRow cs (d :: ds) = listDistance cs (d :: ds) :: distanceRow cs ds := by
  induction cs with
  | nil => rfl
  | cons c cs ih =>
    rw [listDistance, distanceRow_cons_left, ih]
    rfl

lemma listDistance_cons_cons (c d : Char) (cs ds : List Char) :
    listDistance (c :: cs) (d :: ds) =
      min (listDistance cs ds + if c = d then 0 else 1)
        (min (listDistance cs (d :: ds) + 1) (listDistance (c :: cs) ds + 1)) := by
  rw [listDistance, distanceRow_cons_left, distanceRow_cons_right]
  rfl

/-! ### One edit -/

lemma listDistance_cons_left_le (c : Char) (cs ds : List Char) :
    listDistance (c :: cs) ds ≤ listDistance cs ds + 1 := by
  cases ds with
  | nil => simp only [listDistance_nil_right, List.length_cons, le_refl]
  | cons d ds =>
    rw [listDistance_cons_cons]
    omega

lemma listDistance_cons_right_le (cs : List Char) (d : Char) (ds : List Char) :
    listDistance cs (d :: ds) ≤ listDistance cs ds + 1 := by
  cases cs with
  | nil => simp only [listDistance_nil_left, List.length_cons, le_refl]
  | cons c cs =>
    rw [listDistance_cons_cons]
    omega

lemma listDistance_le_cons_left (c : Char) (cs ds : List Char) :
    listDistance cs ds ≤ listDistance (c :: cs) ds + 1 := by
  induction ds with
  | nil =>
    rw [listDistance_nil_right, listDistance_nil_right, List.length_cons]
    omega
  | cons d ds ih =>
    have hright := listDistance_cons_right_le cs d ds
    rw [listDistance_cons_cons]
    omega

lemma listDistance_replace_le (c d : Char) (cs ds : List Char) :
    listDistance (c :: cs) ds ≤ listDistance (d :: cs) ds + 1 := by
  induction ds with
  | nil => simp only [listDistance_nil_right, List.length_cons, Nat.le_succ]
  | cons e ds ih =>
    rw [listDistance_cons_cons, listDistance_cons_cons]
    split <;> omega

/-- What one edit can do to the distance, it can also do behind a further character. -/
lemma listDistance_cons_le {s t : List Char} (h : ∀ u, listDistance s u ≤ listDistance t u + 1)
    (c : Char) (u : List Char) : listDistance (c :: s) u ≤ listDistance (c :: t) u + 1 := by
  induction u with
  | nil =>
    have hnil := h []
    rw [listDistance_nil_right, listDistance_nil_right] at hnil ⊢
    simp only [List.length_cons]
    omega
  | cons d u ih =>
    have hshort := h u
    have hlong := h (d :: u)
    rw [listDistance_cons_cons, listDistance_cons_cons]
    omega

lemma Edit.listDistance_le {s t : List Char} (h : Edit s t) (u : List Char) :
    listDistance s u ≤ listDistance t u + 1 := by
  cases h with
  | insert before after c =>
    induction before generalizing u with
    | nil => exact listDistance_le_cons_left c after u
    | cons b before ih => exact listDistance_cons_le ih b u
  | delete before after c =>
    induction before generalizing u with
    | nil => exact listDistance_cons_left_le c after u
    | cons b before ih => exact listDistance_cons_le ih b u
  | replace before after c d =>
    induction before generalizing u with
    | nil => exact listDistance_replace_le c d after u
    | cons b before ih => exact listDistance_cons_le ih b u

/-! ### Least numbers of edits -/

lemma listDistance_self (s : List Char) : listDistance s s = 0 := by
  induction s with
  | nil => rfl
  | cons c s ih =>
    rw [listDistance_cons_cons, ih, if_pos rfl]
    exact Nat.zero_min _

lemma Edits.listDistance_le {n : Nat} {s t : List Char} (h : Edits n s t) :
    listDistance s t ≤ n := by
  induction h with
  | refl s => exact (listDistance_self s).le
  | step first _ ih => exact (first.listDistance_le _).trans (Nat.succ_le_succ ih)

lemma Edit.cons {s t : List Char} (c : Char) (h : Edit s t) : Edit (c :: s) (c :: t) := by
  cases h with
  | insert before after d => exact .insert (c :: before) after d
  | delete before after d => exact .delete (c :: before) after d
  | replace before after d e => exact .replace (c :: before) after d e

lemma Edits.cons {n : Nat} {s t : List Char} (c : Char) (h : Edits n s t) :
    Edits n (c :: s) (c :: t) := by
  induction h with
  | refl s => exact .refl (c :: s)
  | step first _ ih => exact .step (first.cons c) ih

/-- Each of the three numbers that the distance is the least of belongs to a first edit. -/
lemma edits_listDistance (s t : List Char) : Edits (listDistance s t) s t := by
  induction s generalizing t with
  | nil =>
    induction t with
    | nil => exact .refl []
    | cons d t ih =>
      rw [listDistance_nil_left] at ih ⊢
      exact .step (.insert [] [] d) (ih.cons d)
  | cons c s ihs =>
    induction t with
    | nil =>
      have hrest := ihs []
      rw [listDistance_nil_right] at hrest ⊢
      exact .step (.delete [] s c) hrest
    | cons d t iht =>
      have hdelete : Edits (listDistance s (d :: t) + 1) (c :: s) (d :: t) :=
        .step (.delete [] s c) (ihs (d :: t))
      have hinsert : Edits (listDistance (c :: s) t + 1) (c :: s) (d :: t) :=
        .step (.insert [] (c :: s) d) (iht.cons d)
      have hreplace : Edits (listDistance s t + if c = d then 0 else 1) (c :: s) (d :: t) := by
        by_cases hcd : c = d
        · subst hcd
          rw [if_pos rfl]
          exact (ihs t).cons c
        · rw [if_neg hcd]
          exact .step (.replace [] s c d) ((ihs t).cons d)
      rw [listDistance_cons_cons]
      exact min_rec' (Edits · (c :: s) (d :: t)) hreplace
        (min_rec' (Edits · (c :: s) (d :: t)) hdelete hinsert)

lemma editDistance_isLeast (s t : String) :
    IsLeast {n | Edits n s.toList t.toList} (editDistance s t) :=
  ⟨edits_listDistance s.toList t.toList, fun _ h => h.listDistance_le⟩

end AlbumCatalog
