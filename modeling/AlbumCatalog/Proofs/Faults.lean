import AlbumCatalog.Proofs.Compile
import AlbumCatalog.Proofs.Evaluation

/-!
# The faults of a filter

Whether a filter can be applied is decided by the filter alone. `Expr.faults` lists what is wrong
with the nodes of a tree from left to right, without an album; evaluation fails with the first
fault on every album, and gives an answer on every album where there is none.
-/

namespace AlbumCatalog

def Field.operators : Field → List TokenKind
  | date => [.eq, .ne, .lt, .le, .gt, .ge]
  | tag | userPermissions | groupPermissions => [.eq, .ne]
  | name | description | location | owner => [.eq, .ne, .lt, .le, .gt, .ge, .like, .oneOf]

/-- What must stand on the right of a comparison operator. -/
def TokenKind.operandKind (op : TokenKind) : OperandKind :=
  if op = oneOf then .list else .text

/-- What is wrong with the contents of a right side that has the kind it must have. -/
def contentsFault (field : Field) (op : TokenKind) : Expr → Option EvalError
  | .text value =>
    if field = .date ∧ Date.ofDayText? value.toList = none then some (.invalidDate value)
    else if op = .like ∧ Pattern.ofText? value = none then some (.invalidPattern value)
    else none
  | _ => none

/-- What is wrong with comparing the field so. Of several faults the first of these counts: the
operator, the kind of the right side, its contents. -/
def Field.fault (field : Field) (op : TokenKind) (right : Expr) : Option EvalError :=
  if op ∈ field.operators then
    if right.kind = op.operandKind then contentsFault field op right
    else some (.unexpectedOperand op.operandKind right.kind)
  else some (.wrongOperator field op)

/-- What is wrong with a comparison. Its left side counts before the rest. -/
def comparisonFault (left : Expr) (op : TokenKind) (right : Expr) : Option EvalError :=
  match left with
  | .field name =>
    match Field.ofText? name with
    | some field => field.fault op right
    | none => some (.unknownField name (suggestion name))
  | other => some (.unexpectedOperand .field other.kind)

/-- What is wrong with the nodes of a tree, from left to right. -/
def Expr.faults : Expr → List EvalError
  | .binary l op r =>
    if op.isCombinator then l.faults ++ r.faults else (comparisonFault l op r).toList
  | leaf => [.unexpectedOperand .expression leaf.kind]

/-- The error with which a computation failed, if it did. -/
def failure? {ε α : Type} : Except ε α → Option ε
  | .error e => some e
  | .ok _ => none

section Failure

variable {ε α β : Type}

@[simp]
lemma failure?_ok (a : α) : failure? (Except.ok a : Except ε α) = none := rfl

@[simp]
lemma failure?_error (e : ε) : failure? (Except.error e : Except ε α) = some e := rfl

@[simp]
lemma failure?_map (f : α → β) (x : Except ε α) : failure? (f <$> x) = failure? x := by
  cases x <;> rfl

lemma failure?_eq_some_iff {x : Except ε α} {e : ε} : failure? x = some e ↔ x = .error e := by
  cases x <;> simp

lemma failure?_eq_none_iff {x : Except ε α} : failure? x = none ↔ ∃ a, x = .ok a := by
  cases x <;> simp

end Failure

/-! ### Comparisons -/

lemma Field.fault_of_not_mem {field : Field} {op : TokenKind} (hop : op ∉ field.operators)
    (right : Expr) : field.fault op right = some (.wrongOperator field op) := by
  rw [fault, if_neg hop]

def textFault (contents : String → Option EvalError) : Expr → Option EvalError
  | .text value => contents value
  | other => some (.unexpectedOperand .text other.kind)

lemma Field.fault_of_mem {field : Field} {op : TokenKind} (hop : op ∈ field.operators)
    (hkind : op ≠ .oneOf) (right : Expr) :
    field.fault op right = textFault (fun value => contentsFault field op (.text value)) right := by
  rw [fault, if_pos hop, TokenKind.operandKind, if_neg hkind]
  cases right <;> rfl

lemma failure?_expectText_bind {α : Type} (g : String → Except EvalError α) (right : Expr) :
    failure? (expectText right >>= g) = textFault (fun value => failure? (g value)) right := by
  cases right <;> rfl

lemma failure?_dateTest (op : TokenKind) (right : Expr) :
    failure? (dateTest op right) = Field.date.fault op right := by
  by_cases hop : op ∈ [TokenKind.eq, .ne, .lt, .le, .gt, .ge]
  · have hmem : op ∈ Field.date.operators := hop
    have hkind : op ≠ .oneOf ∧ op ≠ .like := by
      constructor <;> rintro rfl <;> exact absurd hop (by decide)
    rw [dateTest, if_pos hop, failure?_expectText_bind, Field.fault_of_mem hmem hkind.1]
    congr 1
    funext value
    rw [contentsFault]
    cases hday : Date.ofDayText? value.toList with
    | none => simp
    | some day =>
      simp only [reduceCtorEq, and_false, if_false, hkind.2, false_and]
      split <;> rfl
  · have hmem : op ∉ Field.date.operators := hop
    rw [dateTest, if_neg hop, Field.fault_of_not_mem hmem]
    rfl

lemma failure?_itemsTest {field : Field} (op : TokenKind) (right : Expr)
    (hfield : field.operators = [.eq, .ne]) (hdate : field ≠ .date) :
    failure? (itemsTest field op right) = field.fault op right := by
  by_cases hop : op = .eq ∨ op = .ne
  · have hkind : op ≠ .oneOf ∧ op ≠ .like := by rcases hop with rfl | rfl <;> decide
    have hmem : op ∈ field.operators := by simpa [hfield] using hop
    rw [itemsTest, if_pos hop, failure?_expectText_bind, Field.fault_of_mem hmem hkind.1]
    congr 1
    funext value
    simp only [contentsFault, hdate, hkind.2, false_and, if_false]
    split <;> rfl
  · have hmem : op ∉ field.operators := by simpa [hfield] using hop
    rw [itemsTest, if_neg hop, Field.fault_of_not_mem hmem]
    rfl

lemma failure?_textTest {field : Field} (op : TokenKind) (right : Expr)
    (hfield : field.operators = [.eq, .ne, .lt, .le, .gt, .ge, .like, .oneOf])
    (hdate : field ≠ .date) :
    failure? (textTest field op right) = field.fault op right := by
  cases op with
  | oneOf =>
    have hmem : TokenKind.oneOf ∈ field.operators := by simp [hfield]
    rw [Field.fault, if_pos hmem]
    cases right <;> rfl
  | like =>
    have hmem : TokenKind.like ∈ field.operators := by simp [hfield]
    rw [textTest, failure?_expectText_bind, Field.fault_of_mem hmem (by decide)]
    congr 1
    funext value
    simp only [contentsFault, hdate, false_and, if_false, true_and]
    cases Pattern.ofText? value <;> rfl
  | eq | ne | lt | le | gt | ge =>
    rw [textTest, failure?_expectText_bind, Field.fault_of_mem (by simp [hfield]) (by decide)]
    simp [contentsFault, hdate]
  | _ =>
    rw [Field.fault_of_not_mem (by simp [hfield])]
    rfl

lemma failure?_test (field : Field) (op : TokenKind) (right : Expr) :
    failure? (field.test op right) = field.fault op right := by
  cases field with
  | date => rw [Field.test, failure?_map, failure?_dateTest]
  | tag | userPermissions | groupPermissions =>
    rw [Field.test, failure?_map, failure?_itemsTest op right rfl (by decide)]
  | name | description | location | owner =>
    rw [Field.test, failure?_map, failure?_textTest op right rfl (by decide)]

lemma failure?_compareAlbum (a : Album) (left : Expr) (op : TokenKind) (right : Expr) :
    failure? (compareAlbum a left op right) = comparisonFault left op right := by
  rw [compareAlbum, failure?_map]
  cases left with
  | field name =>
    rw [comparisonTest, comparisonFault]
    cases Field.ofText? name with
    | none => rfl
    | some field => exact failure?_test field op right
  | _ => rfl

/-! ### Trees -/

/-- A tree fails with the first of its faults, whatever the album. -/
lemma failure?_meaning (a : Album) (e : Expr) : failure? (e.meaning a) = e.faults.head? := by
  induction e with
  | binary l op r ihl ihr =>
    by_cases hop : op.isCombinator
    · rw [Expr.meaning, if_pos hop, Expr.faults, if_pos hop, List.head?_append, ← ihl, ← ihr]
      cases l.meaning a with
      | error x => rfl
      | ok left => cases r.meaning a <;> rfl
    · rw [Expr.meaning, if_neg hop, Expr.faults, if_neg hop, failure?_compareAlbum]
      cases comparisonFault l op r <;> rfl
  | _ => rfl

lemma Filter.matches_eq_error_iff {f : Filter} {a : Album} {e : EvalError} :
    f.matches a = .error e ↔ f.toExpr.faults.head? = some e := by
  rw [f.matches_eq_meaning, ← failure?_meaning a, failure?_eq_some_iff]

lemma Filter.exists_matches_iff {f : Filter} {a : Album} :
    (∃ answer, f.matches a = .ok answer) ↔ f.toExpr.faults = [] := by
  rw [f.matches_eq_meaning, ← List.head?_eq_none_iff, ← failure?_meaning a, failure?_eq_none_iff]

/-! ### Filters that were read from a text -/

/-- What is wrong with a comparison of a chain. Its left side names a field. -/
def Comparison.fault (c : Comparison) : Option EvalError :=
  comparisonFault (.field c.field) c.op c.comparand.expr

lemma contentsFault_ne {field : Field} {op : TokenKind} {right : Expr}
    {expected found : OperandKind} :
    contentsFault field op right ≠ some (.unexpectedOperand expected found) := by
  unfold contentsFault
  repeat' split
  all_goals simp

lemma Comparison.operandKind_of_fault {c : Comparison} {expected found : OperandKind}
    (h : c.fault = some (.unexpectedOperand expected found)) : expected = c.op.operandKind := by
  rw [fault, comparisonFault] at h
  split at h
  · rw [Field.fault] at h
    split at h
    · split at h
      · exact absurd h contentsFault_ne
      · cases h
        rfl
    · cases h
  · cases h

lemma Comparison.faults_filter (c : Comparison) : c.filter.toExpr.faults = c.fault.toList := by
  have hop : ¬ c.op.isCombinator := TokenKind.not_isCombinator c.isComparison
  simp only [filter, Filter.toExpr, Expr.faults, if_neg hop, fault]

lemma faults_foldl_join (f : Filter) (links : List Link) :
    (links.foldl Link.join f).toExpr.faults =
      f.toExpr.faults ++ links.flatMap fun l => l.comparison.fault.toList := by
  induction links generalizing f with
  | nil => simp
  | cons l links ih =>
    have hjoin : (l.join f).toExpr.faults = f.toExpr.faults ++ l.comparison.fault.toList := by
      rw [Link.join, Filter.toExpr, Expr.faults, if_pos l.isCombinator, Comparison.faults_filter]
    rw [List.foldl_cons, ih, hjoin, List.flatMap_cons, List.append_assoc]

lemma Chain.faults_filter (c : Chain) :
    c.filter.toExpr.faults =
      c.first.fault.toList ++ c.links.flatMap fun l => l.comparison.fault.toList := by
  rw [filter, faults_foldl_join, Comparison.faults_filter]

lemma Chain.operandKind_of_mem_faults {c : Chain} {expected found : OperandKind}
    (h : .unexpectedOperand expected found ∈ c.filter.toExpr.faults) :
    ∃ op : TokenKind, expected = op.operandKind := by
  rw [c.faults_filter, List.mem_append, List.mem_flatMap] at h
  rcases h with h | ⟨l, -, h⟩
  · exact ⟨_, Comparison.operandKind_of_fault (Option.mem_toList.mp h)⟩
  · exact ⟨_, Comparison.operandKind_of_fault (Option.mem_toList.mp h)⟩

lemma TokenKind.operandKind_eq (op : TokenKind) :
    op.operandKind = .list ∨ op.operandKind = .text := by
  unfold operandKind
  split
  · exact Or.inl rfl
  · exact Or.inr rfl

/-- In a filter that was read from a text all operands of combinators are comparisons, and the left
sides of these are names. -/
lemma expected_of_parse {text : String} {f : Filter} (h : Filter.parse text = .ok f) {a : Album}
    {expected found : OperandKind}
    (hf : f.matches a = .error (.unexpectedOperand expected found)) :
    expected = .list ∨ expected = .text := by
  obtain ⟨c, rfl, -⟩ := layout_of_parse h
  have hmem := List.mem_of_mem_head? (Option.mem_def.mpr (Filter.matches_eq_error_iff.mp hf))
  obtain ⟨op, rfl⟩ := c.operandKind_of_mem_faults hmem
  exact op.operandKind_eq

/-- A filter fails with the leftmost fault of its tree on every album, and gives an answer on every
album if its tree has no fault. A filter that was read from a text never lacks an expression or the
name of a field. -/
theorem matches_eq_error_iff_leftmost_fault (f : Filter) :
    (∀ a e, f.matches a = .error e ↔ f.toExpr.faults.head? = some e) ∧
      (∀ a b e, f.matches a = .error e ↔ f.matches b = .error e) ∧
      (∀ a, (∃ answer, f.matches a = .ok answer) ↔ f.toExpr.faults = []) ∧
      ∀ text, Filter.parse text = .ok f → ∀ a found,
        f.matches a ≠ .error (.unexpectedOperand .expression found) ∧
          f.matches a ≠ .error (.unexpectedOperand .field found) := by
  refine ⟨?_, ?_, ?_, ?_⟩
  · intro a e
    exact Filter.matches_eq_error_iff
  · intro a b e
    rw [Filter.matches_eq_error_iff, Filter.matches_eq_error_iff]
  · intro a
    exact Filter.exists_matches_iff
  · intro text h a found
    constructor
    · intro hf
      rcases expected_of_parse h hf with he | he <;> cases he
    · intro hf
      rcases expected_of_parse h hf with he | he <;> cases he

/-- Of an order on tags and an unknown field, which stands behind it, the first is the fault. -/
theorem matches_eq_error_of_tag_order :
    Filter.parse "tag < 'é' or nmae = 'a'" =
        .ok ⟨.binary (.field "tag") .lt (.text "é"), .or, .binary (.field "nmae") .eq (.text "a")⟩ ∧
      ∀ a found,
        Filter.matches ⟨.binary (.field "tag") .lt (.text "é"), .or,
            .binary (.field "nmae") .eq (.text "a")⟩ a = .error (.wrongOperator .tag .lt) ∧
          Filter.matches ⟨.binary (.field "tag") .lt (.text "é"), .or,
            .binary (.field "nmae") .eq (.text "a")⟩ a ≠
              .error (.unexpectedOperand .expression found) := by
  have hparse : Filter.parse "tag < 'é' or nmae = 'a'" =
      .ok ⟨.binary (.field "tag") .lt (.text "é"), .or,
        .binary (.field "nmae") .eq (.text "a")⟩ := by decide +kernel
  obtain ⟨hfault, -, -, hread⟩ := matches_eq_error_iff_leftmost_fault
    ⟨.binary (.field "tag") .lt (.text "é"), .or, .binary (.field "nmae") .eq (.text "a")⟩
  refine ⟨hparse, fun a found => ⟨(hfault a _).mpr ?_, (hread _ hparse a found).1⟩⟩
  rfl

end AlbumCatalog
