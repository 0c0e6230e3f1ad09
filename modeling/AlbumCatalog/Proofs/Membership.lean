import AlbumCatalog.Proofs.FieldComparison
import AlbumCatalog.Proofs.Joining

/-!
# Lists as chains of equalities

A text field is in a list when it equals one of the items. So the comparison with the list answers
like the chain that joins the equalities with the items by `or`. Behind other comparisons it stands
for the answer of that whole chain, not for its text: chains lean to the left, and an `and` before the
text of the chain would bind the first equality alone.
-/

namespace AlbumCatalog

namespace TextField

/-- The comparison `t = value`. -/
def equality (t : TextField) (value : String) : Comparison :=
  ⟨t.field.text, .eq, .text value, t.field.isFieldName, rfl⟩

/-- The comparison `t in [first, …]`. -/
def membership (t : TextField) (first : String) (more : List String) : Comparison :=
  ⟨t.field.text, .oneOf, .list first more, t.field.isFieldName, rfl⟩

def orEquality (t : TextField) (value : String) : Link :=
  ⟨.or, t.equality value, rfl⟩

/-- The chain `t = first or …`. -/
def equalities (t : TextField) (first : String) (more : List String) : Chain :=
  ⟨t.equality first, more.map t.orEquality⟩

lemma matches_equality (t : TextField) (value : String) (a : Album) :
    (t.equality value).filter.matches a = .ok (t.value a == value) := by
  have htest : (t.equality value).filter.matches a = (· a) <$> t.field.test .eq (.text value) :=
    matches_comparison t.field rfl (.text value) a
  rw [htest, t.test_eq, textTest_eq_relates t.field (.inl rfl)]
  rfl

lemma matches_membership (t : TextField) (first : String) (more : List String) (a : Album) :
    (t.membership first more).filter.matches a = .ok ((first :: more).contains (t.value a)) := by
  have htest : (t.membership first more).filter.matches a =
      (· a) <$> t.field.test .oneOf (.list (first :: more)) :=
    matches_comparison t.field rfl (.list (first :: more)) a
  rw [htest, t.test_eq]
  rfl

/-- Each further equality is joined to the answer before it. -/
lemma foldlM_orEquality (t : TextField) (values : List String) (a : Album) (before : Bool) :
    (values.map t.orEquality).foldlM (Link.answer a) before =
      .ok (before || values.contains (t.value a)) := by
  induction values generalizing before with
  | nil => simp [pure, Except.pure]
  | cons value values ih =>
    have hanswer : Link.answer a before (t.orEquality value) =
        .ok (before || t.value a == value) := by
      rw [Link.answer, orEquality, t.matches_equality]
      rfl
    rw [List.map_cons, List.foldlM_cons, hanswer]
    refine (ih _).trans ?_
    rw [List.contains_cons, Bool.or_assoc]

lemma matches_equalities (t : TextField) (first : String) (more : List String) (a : Album) :
    (t.equalities first more).filter.matches a = .ok ((first :: more).contains (t.value a)) := by
  rw [Chain.filter, matches_foldl_join, equalities, t.matches_equality]
  exact (t.foldlM_orEquality more a _).trans (by rw [List.contains_cons])

end TextField

/-- The comparison of a text field with a list gives the answer of the chain of equalities with the
items, in whatever order and however often these stand in the list. Behind any filter it gives what
the combinator makes of the answer of that filter, or its error, and of the answer of the chain. -/
theorem membership_is_chain_of_equalities (t : TextField) (first : String) (more : List String)
    (a : Album) :
    (t.membership first more).filter.matches a = (t.equalities first more).filter.matches a ∧
    (∀ (first' : String) (more' : List String),
      (∀ value, value ∈ first :: more ↔ value ∈ first' :: more') →
        (t.membership first more).filter.matches a =
          (t.membership first' more').filter.matches a) ∧
    ∀ (p : Filter) (op : TokenKind) (hop : op.isCombinator),
      (Link.join p ⟨op, t.membership first more, hop⟩).matches a = (do
        let before ← p.matches a
        let inside ← (t.equalities first more).filter.matches a
        .ok (combine op before inside)) := by
  refine ⟨?_, ?_, ?_⟩
  · rw [t.matches_membership, t.matches_equalities]
  · intro first' more' hsame
    have hcontains : (first :: more).contains (t.value a) =
        (first' :: more').contains (t.value a) := by
      rw [Bool.eq_iff_iff, List.contains_iff_mem, List.contains_iff_mem, hsame]
    rw [t.matches_membership, t.matches_membership, hcontains]
  · intro p op hop
    rw [Link.matches_join, t.matches_equalities]
    simp only [Link.answer, t.matches_membership]
    rfl

/-- Of an album with another owner the equalities written out behind `and` say something else. -/
example :
    let a : Album :=
      ⟨⟨1, by decide⟩, "b", "", "", "o", .midnight ⟨2022, 2, 1, by decide⟩, [], [], []⟩
    let p := Expr.binary (.field "owner") .eq (.text "x")
    let named := fun value => Expr.binary (.field "name") .eq (.text value)
    Expr.meaning a (.binary p .and (.binary (.field "name") .oneOf (.list ["a", "b"]))) =
        .ok false ∧
      Expr.meaning a (.binary (.binary p .and (named "a")) .or (named "b")) = .ok true := by
  decide +kernel

/-- A list with items out of order and twice, alone and behind a comparison that fails. -/
theorem membership_of_repeated_items :
    let a : Album :=
      ⟨⟨1, by decide⟩, "é", "", "", "o", .midnight ⟨2022, 2, 1, by decide⟩, [], [], []⟩
    let p : Filter := ⟨.field "tag", .lt, .text "x"⟩
    let inList : Filter := ⟨.field "name", .oneOf, .list ["b", "é", "b"]⟩
    Filter.parse "name in ['b', 'é', 'b']" = .ok inList ∧
      inList.matches a = .ok true ∧
      inList.matches a = Filter.matches ⟨.field "name", .oneOf, .list ["é", "b"]⟩ a ∧
      Filter.matches ⟨p.toExpr, .or, inList.toExpr⟩ a = .error (.wrongOperator .tag .lt) := by
  intro a p inList
  obtain ⟨hchain, hitems, hbehind⟩ :=
    membership_is_chain_of_equalities .name "b" ["é", "b"] a
  have hp : p.matches a = .error (.wrongOperator .tag .lt) := by
    rw [Filter.matches_eq_meaning]
    decide +kernel
  refine ⟨by decide +kernel, hchain.trans ?_, hitems "é" ["b"] (by simp), ?_⟩
  · rw [Filter.matches_eq_meaning]
    decide +kernel
  · refine (hbehind p .or rfl).trans ?_
    rw [hp]
    rfl

end AlbumCatalog
