import AlbumCatalog.Proofs.FieldComparison

/-!
# Dual filters

The dual of a filter has `or` for `and`, `!=` for `=`, `>=` for `<` and `>` for `<=`, and the other
way round. Of an album it says the opposite of the filter, or fails with the same error, as long as
each comparison of the filter has an opposite. Equality has one for every field, and an order has one
for the text fields. An order of dates has none: at the midnight of a day both `<` and `>=` fail.
-/

namespace AlbumCatalog

namespace TokenKind

def dual : TokenKind → TokenKind
  | and => or
  | or => and
  | eq => ne
  | ne => eq
  | lt => ge
  | ge => lt
  | gt => le
  | le => gt
  | k => k

lemma isCombinator_dual (k : TokenKind) : k.dual.isCombinator = k.isCombinator := by
  cases k <;> rfl

lemma isComparison_dual (k : TokenKind) : k.dual.isComparison = k.isComparison := by
  cases k <;> rfl

lemma isEquality_or_isOrder_dual {op : TokenKind} (hop : op.isEquality ∨ op.isOrder) :
    op.dual.isEquality ∨ op.dual.isOrder := by
  cases op <;> simp_all [dual, isEquality, isOrder]

lemma relates_dual {op : TokenKind} (hop : op.isEquality ∨ op.isOrder) (e s : String) :
    op.dual.relates e s = !op.relates e s := by
  have heq : decide (s ≠ e) = !decide (s = e) := decide_not
  have hlt : ∀ s e : String, decide (e ≤ s) = !decide (s < e) := by
    intro s e
    rw [← decide_not, decide_eq_decide, String.not_lt]
  have hle : ∀ s e : String, decide (e < s) = !decide (s ≤ e) := by
    intro s e
    rw [← decide_not, decide_eq_decide, String.not_le]
  cases op with
  | eq => exact heq
  | ne => exact (Bool.not_not _).symm.trans (congrArg not heq.symm)
  | lt => exact hlt s e
  | ge => exact hle e s
  | le => exact hle s e
  | gt => exact hlt e s
  | _ => simp only [isEquality, isOrder, Bool.false_eq_true, or_self] at hop

lemma combine_dual {op : TokenKind} (hop : op.isCombinator) (left right : Bool) :
    combine op.dual (!left) (!right) = !combine op left right := by
  rcases isCombinator_iff.mp hop with rfl | rfl <;> cases left <;> cases right <;> rfl

end TokenKind

/-- The operators of all nodes are exchanged. Fields and operands stay. -/
def Expr.dual : Expr → Expr
  | binary l op r =>
    if op.isCombinator then binary l.dual op.dual r.dual else binary l op.dual r
  | leaf => leaf

def Filter.dual (f : Filter) : Filter :=
  if f.isCombinator then ⟨f.left.dual, f.op.dual, f.right.dual⟩ else ⟨f.left, f.op.dual, f.right⟩

lemma Filter.toExpr_dual (f : Filter) : f.dual.toExpr = f.toExpr.dual := by
  unfold Filter.dual Filter.isCombinator
  rw [Filter.toExpr.eq_def f, Expr.dual]
  split <;> rfl

/-- A comparison that says the opposite under the dual operator: an equality, whatever is compared
with whatever, or an order of a text field. -/
def HasOpposite (left : Expr) (op : TokenKind) : Prop :=
  op.isEquality ∨ op.isOrder ∧ ∃ t : TextField, left = .field t.field.text

/-- All comparisons of the expression have an opposite. -/
def Expr.HasDual : Expr → Prop
  | binary l op r => if op.isCombinator then l.HasDual ∧ r.HasDual else HasOpposite l op
  | _ => True

/-! ### Tests -/

def complement {α : Type} (test : α → Bool) (x : α) : Bool :=
  !test x

lemma complement_map_comp {ε α β : Type} (g : α → β) (x : Except ε (β → Bool)) :
    (· ∘ g) <$> complement <$> x = complement <$> (· ∘ g) <$> x := by
  cases x <;> rfl

lemma complement_map_complement {ε α : Type} (x : Except ε (α → Bool)) :
    complement <$> complement <$> x = x := by
  cases x with
  | error e => rfl
  | ok test => exact congrArg Except.ok (funext fun x => Bool.not_not (test x))

lemma dateTest_ne (right : Expr) : dateTest .ne right = complement <$> dateTest .eq right := by
  rw [dateTest_eq_relatesDay (.inl rfl), dateTest_eq_relatesDay (.inl rfl), Functor.map_map]
  congr 1
  funext day t
  exact decide_not

lemma itemsTest_ne (field : Field) (right : Expr) :
    itemsTest field .ne right = complement <$> itemsTest field .eq right := by
  cases right <;> rfl

lemma textTest_dual (field : Field) {op : TokenKind} (hop : op.isEquality ∨ op.isOrder)
    (right : Expr) : textTest field op.dual right = complement <$> textTest field op right := by
  have hdual := TokenKind.isEquality_or_isOrder_dual hop
  rw [textTest_eq_relates field hdual, textTest_eq_relates field hop, Functor.map_map]
  congr 1
  funext e s
  exact TokenKind.relates_dual hop e s

lemma TextField.test_dual (t : TextField) (op : TokenKind) (hop : op.isEquality ∨ op.isOrder)
    (right : Expr) : t.field.test op.dual right = complement <$> t.field.test op right := by
  rw [t.test_eq, t.test_eq, textTest_dual _ hop, complement_map_comp]

lemma Field.test_ne (field : Field) (right : Expr) :
    field.test .ne right = complement <$> field.test .eq right := by
  cases field with
  | date => rw [test, test, dateTest_ne, complement_map_comp]
  | tag | userPermissions | groupPermissions =>
    rw [test, test, itemsTest_ne, complement_map_comp]
  | name => exact TextField.name.test_dual .eq (.inl rfl) right
  | description => exact TextField.description.test_dual .eq (.inl rfl) right
  | location => exact TextField.location.test_dual .eq (.inl rfl) right
  | owner => exact TextField.owner.test_dual .eq (.inl rfl) right

lemma Field.test_dual {field : Field} {op : TokenKind}
    (h : op.isEquality ∨ op.isOrder ∧ ∃ t : TextField, field = t.field) (right : Expr) :
    field.test op.dual right = complement <$> field.test op right := by
  rcases h with hop | ⟨hop, t, rfl⟩
  · cases op with
    | eq => exact field.test_ne right
    | ne => rw [field.test_ne, complement_map_complement, TokenKind.dual]
    | _ => cases hop
  · exact t.test_dual op (.inr hop) right

lemma comparisonTest_dual {left : Expr} {op : TokenKind} (h : HasOpposite left op) (right : Expr) :
    comparisonTest left op.dual right = complement <$> comparisonTest left op right := by
  cases left with
  | field name =>
    rw [comparisonTest, comparisonTest]
    cases hfield : Field.ofText? name with
    | none => rfl
    | some field =>
      refine Field.test_dual (h.imp_right ?_) right
      rintro ⟨hop, t, hname⟩
      obtain rfl := Expr.field.inj hname
      rw [Field.ofText?_text] at hfield
      exact ⟨hop, t, (Option.some.inj hfield).symm⟩
  | _ => rfl

lemma compareAlbum_dual {left : Expr} {op : TokenKind} (h : HasOpposite left op) (right : Expr)
    (a : Album) : compareAlbum a left op.dual right = (!·) <$> compareAlbum a left op right := by
  rw [compareAlbum, compareAlbum, comparisonTest_dual h]
  cases comparisonTest left op right <;> rfl

/-! ### Trees -/

/-- The leftmost error stays where it is, since the dual evaluates the same operands in the same
order. -/
lemma Expr.meaning_dual {e : Expr} (h : e.HasDual) (a : Album) :
    e.dual.meaning a = (!·) <$> e.meaning a := by
  induction e with
  | binary l op r ihl ihr =>
    by_cases hop : op.isCombinator
    · rw [HasDual, if_pos hop] at h
      have hdual : op.dual.isCombinator := op.isCombinator_dual.trans hop
      rw [dual, if_pos hop, meaning, if_pos hdual, meaning, if_pos hop, ihl h.1, ihr h.2]
      cases l.meaning a with
      | error x => rfl
      | ok left =>
        cases r.meaning a with
        | error x => rfl
        | ok right => exact congrArg Except.ok (TokenKind.combine_dual hop left right)
    · rw [HasDual, if_neg hop] at h
      have hdual : ¬ op.dual.isCombinator := by rwa [op.isCombinator_dual]
      rw [dual, if_neg hop, meaning, if_neg hdual, meaning, if_neg hop, compareAlbum_dual h]
  | _ => rfl

/-! ### Chains -/

def Comparison.dual (c : Comparison) : Comparison :=
  ⟨c.field, c.op.dual, c.comparand, c.isFieldName, c.op.isComparison_dual.trans c.isComparison⟩

def Link.dual (l : Link) : Link :=
  ⟨l.op.dual, l.comparison.dual, l.op.isCombinator_dual.trans l.isCombinator⟩

def Chain.dual (c : Chain) : Chain :=
  ⟨c.first.dual, c.links.map Link.dual⟩

def Chain.comparisons (c : Chain) : List Comparison :=
  c.first :: c.links.map Link.comparison

lemma Comparison.not_isCombinator (c : Comparison) : ¬ c.op.isCombinator :=
  TokenKind.not_isCombinator c.isComparison

lemma Comparison.filter_dual (c : Comparison) : c.filter.dual = c.dual.filter :=
  if_neg c.not_isCombinator

lemma Comparison.hasDual_iff (c : Comparison) :
    c.filter.toExpr.HasDual ↔ HasOpposite (.field c.field) c.op := by
  rw [filter, Filter.toExpr, Expr.HasDual, if_neg c.not_isCombinator]

lemma Link.dual_join (f : Filter) (l : Link) : (l.join f).dual = l.dual.join f.dual := by
  have hop : (l.join f).isCombinator := l.isCombinator
  rw [Filter.dual, if_pos hop, join, join, dual, ← Comparison.filter_dual, Filter.toExpr_dual,
    Filter.toExpr_dual]

lemma Link.hasDual_join (f : Filter) (l : Link) :
    (l.join f).toExpr.HasDual ↔
      f.toExpr.HasDual ∧ HasOpposite (.field l.comparison.field) l.comparison.op := by
  rw [join, Filter.toExpr, Expr.HasDual, if_pos l.isCombinator, Comparison.hasDual_iff]

lemma dual_foldl_join (f : Filter) (links : List Link) :
    (links.foldl Link.join f).dual = (links.map Link.dual).foldl Link.join f.dual := by
  induction links generalizing f with
  | nil => rfl
  | cons l links ih => rw [List.foldl_cons, ih, Link.dual_join, List.map_cons, List.foldl_cons]

lemma Chain.filter_dual (c : Chain) : c.filter.dual = c.dual.filter := by
  rw [filter, dual_foldl_join, Comparison.filter_dual]
  rfl

lemma hasDual_foldl_join (f : Filter) (links : List Link) :
    (links.foldl Link.join f).toExpr.HasDual ↔ f.toExpr.HasDual ∧
      ∀ d ∈ links.map Link.comparison, HasOpposite (.field d.field) d.op := by
  induction links generalizing f with
  | nil => simp
  | cons l links ih =>
    rw [List.foldl_cons, ih, Link.hasDual_join, List.map_cons, List.forall_mem_cons, and_assoc]

lemma Chain.hasDual_iff (c : Chain) :
    c.filter.toExpr.HasDual ↔ ∀ d ∈ c.comparisons, HasOpposite (.field d.field) d.op := by
  rw [filter, hasDual_foldl_join, Comparison.hasDual_iff, comparisons, List.forall_mem_cons]

/-- A filter of any shape whose comparisons all have an opposite, and its dual, give opposite answers
on every album or fail with the same error. For a chain of comparisons the dual is the chain of the
dual comparisons, joined by the dual combinators. -/
theorem dual_matches_opposite :
    (∀ f : Filter, f.toExpr.HasDual → ∀ a : Album, f.dual.matches a = (!·) <$> f.matches a) ∧
    ∀ c : Chain, c.filter.dual = c.dual.filter ∧
      (c.filter.toExpr.HasDual ↔ ∀ d ∈ c.comparisons, HasOpposite (.field d.field) d.op) := by
  refine ⟨?_, fun c => ⟨c.filter_dual, c.hasDual_iff⟩⟩
  intro f hf a
  rw [f.dual.matches_eq_meaning, f.matches_eq_meaning, f.toExpr_dual, Expr.meaning_dual hf]

/-- A chain with both combinators, and one whose second comparison fails, in both filters. -/
theorem dual_of_mixed_chains :
    let f : Filter := ⟨.binary (.binary (.field "name") .lt (.text "m")) .and
      (.binary (.field "tag") .eq (.text "é")), .or, .binary (.field "owner") .ne (.text "o")⟩
    let g : Filter := ⟨.binary (.field "location") .le (.text ""), .and,
      .binary (.field "date") .ne (.text "31/02/2022")⟩
    let a : Album :=
      ⟨⟨1, by decide⟩, "n", "", "", "o", .midnight ⟨2022, 2, 1, by decide⟩, ["é"], [], []⟩
    f.toExpr.HasDual ∧ g.toExpr.HasDual ∧
      Filter.parse "name >= 'm' or tag != 'é' and owner = 'o'" = .ok f.dual ∧
      f.matches a = .ok false ∧ f.dual.matches a = .ok true ∧
      g.matches a = .error (.invalidDate "31/02/2022") ∧
      g.dual.matches a = .error (.invalidDate "31/02/2022") := by
  intro f g a
  have hf : f.toExpr.HasDual :=
    ⟨⟨Or.inr ⟨rfl, .name, rfl⟩, Or.inl rfl⟩, Or.inl rfl⟩
  have hg : g.toExpr.HasDual := ⟨Or.inr ⟨rfl, .location, rfl⟩, Or.inl rfl⟩
  have hanswer : f.matches a = .ok false := by
    rw [Filter.matches_eq_meaning]
    decide +kernel
  have hfault : g.matches a = .error (.invalidDate "31/02/2022") := by
    rw [Filter.matches_eq_meaning]
    decide +kernel
  refine ⟨hf, hg, by decide +kernel, hanswer, ?_, hfault, ?_⟩
  · rw [dual_matches_opposite.1 f hf a, hanswer]
    rfl
  · rw [dual_matches_opposite.1 g hg a, hfault]
    rfl

end AlbumCatalog
