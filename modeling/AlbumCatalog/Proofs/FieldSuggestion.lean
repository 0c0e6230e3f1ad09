import AlbumCatalog.Filter.Evaluate
import AlbumCatalog.Proofs.EditScripts

/-!
# Fields suggested for unknown names

A comparison with a name that is no field's fails, and may suggest the field that was meant: the one
that fewest edits of the name lead to, the first in the order of all fields if there are several, and
none if that takes more than three edits.
-/

namespace AlbumCatalog

/-- Of several candidates at the least distance the first one is taken. -/
lemma exists_nearest {α : Type} (distance : α → Nat) {candidates : List α} (h : candidates ≠ []) :
    ∃ before a after, candidates = before ++ a :: after ∧ nearest distance candidates = some a ∧
      (∀ b ∈ before, distance a < distance b) ∧ ∀ b ∈ after, distance a ≤ distance b := by
  induction candidates with
  | nil => exact absurd rfl h
  | cons c rest ih =>
    by_cases hrest : rest = []
    · subst hrest
      exact ⟨[], c, [], rfl, rfl, List.forall_mem_nil _, List.forall_mem_nil _⟩
    · obtain ⟨before, a, after, hsplit, hnearest, hbefore, hafter⟩ := ih hrest
      by_cases hlt : distance a < distance c
      · refine ⟨c :: before, a, after, by rw [hsplit]; rfl, ?_,
          List.forall_mem_cons.mpr ⟨hlt, hbefore⟩, hafter⟩
        simp only [nearest, hnearest, if_pos hlt]
      · have hle : distance c ≤ distance a := Nat.not_lt.mp hlt
        refine ⟨[], c, rest, rfl, ?_, List.forall_mem_nil _, ?_⟩
        · simp only [nearest, hnearest, if_neg hlt]
        · rw [hsplit, List.forall_mem_append, List.forall_mem_cons]
          exact ⟨fun b hb => hle.trans (hbefore b hb).le, hle, fun b hb => hle.trans (hafter b hb)⟩

lemma Field.mem_all (f : Field) : f ∈ all := by
  cases f <;> decide

lemma Edits.eq_of_zero {s t : List Char} (h : Edits 0 s t) : s = t := by
  cases h
  rfl

/-- Only a field's own name is at no distance from the field. -/
lemma editDistance_pos {name : String} (hname : Field.ofText? name = none) (f : Field) :
    0 < editDistance name f.text := by
  rw [Nat.pos_iff_ne_zero]
  intro hzero
  have hedits := (editDistance_isLeast name f.text).1
  rw [hzero] at hedits
  rw [String.toList_inj.mp (Edits.eq_of_zero hedits)] at hname
  cases f <;> cases hname

lemma suggestion_eq {name : String} (hname : Field.ofText? name = none) {f : Field}
    (hnearest : nearest (fun f => editDistance name f.text) Field.all = some f) :
    suggestion name = if editDistance name f.text ≤ 3 then some f else none := by
  have hpos := editDistance_pos hname f
  unfold suggestion
  dsimp only
  rw [hnearest, Option.filter_some]
  by_cases hreach : editDistance name f.text ≤ 3
  · rw [if_pos hreach, if_pos]
    exact Bool.and_eq_true_iff.mpr ⟨decide_eq_true hpos, decide_eq_true hreach⟩
  · rw [if_neg hreach, if_neg]
    exact fun h => hreach (decide_eq_true_eq.mp (Bool.and_eq_true_iff.mp h).2)

/-- Every comparison with a name that is no field's fails and says which field may be meant. It says
so if and only if at most three edits lead from the name to that of some field. The suggested field
then takes the least number of edits, fewer than the fields before it in the order of all fields and
no more than those behind it. -/
theorem suggestion_is_nearest_field (name : String) (hname : Field.ofText? name = none) :
    ∃ suggested : Option Field,
      (∀ (a : Album) (op : TokenKind) (right : Expr),
        compareAlbum a (.field name) op right = .error (.unknownField name suggested)) ∧
      ((∃ f, suggested = some f) ↔
        ∃ (f : Field) (n : Nat), n ≤ 3 ∧ Edits n name.toList f.text.toList) ∧
      ∀ f, suggested = some f → ∃ n before after,
        IsLeast {k | Edits k name.toList f.text.toList} n ∧
        Field.all = before ++ f :: after ∧
        (∀ g ∈ before, ∀ m, Edits m name.toList g.text.toList → n < m) ∧
        ∀ g ∈ after, ∀ m, Edits m name.toList g.text.toList → n ≤ m := by
  obtain ⟨before, f, after, hall, hnearest, hbefore, hafter⟩ :=
    exists_nearest (fun f => editDistance name f.text) (List.ne_nil_of_mem Field.name.mem_all)
  have hleast := fun g : Field => editDistance_isLeast name g.text
  have hfirst : ∀ g : Field, editDistance name f.text ≤ editDistance name g.text := by
    intro g
    have hg := g.mem_all
    rw [hall, List.mem_append, List.mem_cons] at hg
    rcases hg with hg | rfl | hg
    · exact (hbefore g hg).le
    · exact le_rfl
    · exact hafter g hg
  refine ⟨suggestion name, ?_, ?_, ?_⟩
  · intro a op right
    simp only [compareAlbum, comparisonTest, hname]
    rfl
  · rw [suggestion_eq hname hnearest]
    constructor
    · rintro ⟨g, hg⟩
      split at hg
      · rename_i hreach
        exact ⟨f, _, hreach, (hleast f).1⟩
      · cases hg
    · rintro ⟨g, n, hn, hedits⟩
      have hreach : editDistance name f.text ≤ 3 :=
        ((hfirst g).trans ((hleast g).2 hedits)).trans hn
      exact ⟨f, if_pos hreach⟩
  · intro g hg
    rw [suggestion_eq hname hnearest] at hg
    split at hg
    · obtain rfl := Option.some.inj hg
      exact ⟨_, before, after, hleast f, hall,
        fun g hg m hm => (hbefore g hg).trans_le ((hleast g).2 hm),
        fun g hg m hm => (hafter g hg).trans ((hleast g).2 hm)⟩
    · cases hg

/-- One edit leads from the word to `name` and one to `date`; the first of the two is suggested. -/
theorem suggestion_for_nate :
    Field.ofText? "nate" = none ∧ ∀ a : Album,
      compareAlbum a (.field "nate") .eq (.text "x") =
        .error (.unknownField "nate" (some .name)) := by
  have hname : Field.ofText? "nate" = none := by decide
  obtain ⟨suggested, herror, hreach, hsuggested⟩ := suggestion_is_nearest_field "nate" hname
  have hedit : Edits 1 "nate".toList Field.name.text.toList :=
    .step (.replace ['n', 'a'] ['e'] 't' 'm') (.refl _)
  obtain ⟨f, rfl⟩ := hreach.mpr ⟨.name, 1, by decide, hedit⟩
  obtain ⟨n, before, after, ⟨hn, -⟩, hall, hbefore, -⟩ := hsuggested f rfl
  have hf : f = .name := by
    cases before with
    | nil => exact (List.head_eq_of_cons_eq hall).symm
    | cons g before =>
      -- then the field `name` stands before it and would take more than one edit
      obtain rfl : Field.name = g := List.head_eq_of_cons_eq hall
      have hlt : n < 1 := hbefore .name List.mem_cons_self 1 hedit
      obtain rfl : n = 0 := by omega
      have hsame := Edits.eq_of_zero hn
      cases f <;> exact absurd hsame (by decide)
  exact ⟨hname, fun a => hf ▸ herror a .eq (.text "x")⟩

end AlbumCatalog
