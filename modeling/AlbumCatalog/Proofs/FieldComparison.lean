import AlbumCatalog.Proofs.Compile
import AlbumCatalog.Proofs.Evaluation

/-!
# Comparisons of album fields

A comparison with the name of a field on its left applies the test of that field. The four fields
that hold a text share one test. Six operators ask how a text stands to another one, or an instant to
a day; which of these answers they want is said here apart from the faults of the operand.
-/

namespace AlbumCatalog

lemma Field.isFieldName (field : Field) : IsFieldName field.text.toList := by
  have hchars : ∀ c ∈ field.text.toList, isWordChar c := by
    rw [← List.all_eq_true]
    cases field <;> rfl
  have hword : IsWord field.text.toList := by
    obtain ⟨c, rest, htext, hc⟩ : ∃ c rest, field.text.toList = c :: rest ∧ isLetter c := by
      cases field <;> exact ⟨_, _, rfl, rfl⟩
    exact ⟨c, rest, htext, hc, fun d hd => hchars d (htext ▸ List.mem_cons_of_mem c hd)⟩
  have hnone : TokenKind.keyword? field.text.toList = none := by cases field <;> rfl
  refine ⟨hword, fun k hk hs => ?_⟩
  rw [TokenKind.keyword?_eq_some_iff.mpr ⟨hk, hs⟩] at hnone
  cases hnone

lemma Field.ofText?_text (field : Field) : Field.ofText? field.text = some field := by
  cases field <;> rfl

lemma matches_comparison (field : Field) {op : TokenKind} (hop : op.isComparison) (right : Expr)
    (a : Album) : Filter.matches ⟨.field field.text, op, right⟩ a = (· a) <$> field.test op right := by
  rw [Filter.matches_eq_meaning, Filter.toExpr, Expr.meaning,
    if_neg (TokenKind.not_isCombinator hop), compareAlbum, comparisonTest]
  simp only [Field.ofText?_text]

/-! ### Text fields -/

/-- The fields that hold one text. -/
inductive TextField
  | name
  | description
  | location
  | owner
  deriving DecidableEq, Repr

namespace TextField

def field : TextField → Field
  | name => .name
  | description => .description
  | location => .location
  | owner => .owner

/-- The text that an album has in the field. -/
def value : TextField → Album → String
  | name => Album.name
  | description => Album.description
  | location => Album.location
  | owner => Album.owner

lemma test_eq (t : TextField) (op : TokenKind) (right : Expr) :
    t.field.test op right = (· ∘ t.value) <$> textTest t.field op right := by
  cases t <;> rfl

end TextField

namespace TokenKind

def isEquality : TokenKind → Bool
  | eq | ne => true
  | _ => false

def isOrder : TokenKind → Bool
  | lt | le | gt | ge => true
  | _ => false

lemma isComparison_of_isEquality_or_isOrder {op : TokenKind} (h : op.isEquality ∨ op.isOrder) :
    op.isComparison := by
  cases op <;> simp_all [isEquality, isOrder, isComparison]

/-- Whether a text `s` stands to the text `e` as the operator says. -/
def relates : TokenKind → String → String → Bool
  | eq, e, s => s = e
  | ne, e, s => s ≠ e
  | lt, e, s => s < e
  | le, e, s => s ≤ e
  | gt, e, s => e < s
  | ge, e, s => e ≤ s
  | _, _, _ => false

/-- Whether an instant `t` stands to the day as the operator says. -/
def relatesDay : TokenKind → Date → Instant → Bool
  | eq, day, t => t.date = day
  | ne, day, t => t.date ≠ day
  | lt, day, t | le, day, t => t < Instant.midnight day
  | gt, day, t | ge, day, t => Instant.midnight day < t
  | _, _, _ => false

end TokenKind

/-- The day on the right of an operator. -/
def expectDay (right : Expr) : Except EvalError Date := do
  let literal ← expectText right
  match Date.ofDayText? literal.toList with
  | none => .error (.invalidDate literal)
  | some day => .ok day

lemma textTest_eq_relates (field : Field) {op : TokenKind} (hop : op.isEquality ∨ op.isOrder)
    (right : Expr) :
    textTest field op right = op.relates <$> expectText right := by
  cases op with
  | eq | ne | lt | le | gt | ge => cases right <;> rfl
  | _ => simp [TokenKind.isEquality, TokenKind.isOrder] at hop

lemma dateTest_eq_relatesDay {op : TokenKind} (hop : op.isEquality ∨ op.isOrder) (right : Expr) :
    dateTest op right = op.relatesDay <$> expectDay right := by
  cases right with
  | text value =>
    cases op with
    | eq | ne | lt | le | gt | ge =>
      simp only [dateTest, expectDay, expectText, bind, Except.bind]
      cases Date.ofDayText? value.toList <;> rfl
    | _ => simp [TokenKind.isEquality, TokenKind.isOrder] at hop
  | _ =>
    cases op with
    | eq | ne | lt | le | gt | ge => rfl
    | _ => simp [TokenKind.isEquality, TokenKind.isOrder] at hop

end AlbumCatalog
