import AlbumCatalog.Filter.Error
import AlbumCatalog.Pattern.Basic
import AlbumCatalog.Text.Characters

/-!
# Applying a filter to an album

A comparison is first resolved to a test of albums, which may fail, and the test is then applied.
Both sides of a combinator are evaluated, the left one first, so the leftmost error is the result.
`Expr.meaning` says this by recursion; `Filter.matches` keeps the pending work in a list, so that a
long chain needs no deep recursion.
-/

namespace AlbumCatalog

/-- The string on the right of an operator. -/
def expectText : Expr → Except EvalError String
  | .text value => .ok value
  | other => .error (.unexpectedOperand .text other.kind)

/-- Comparing the time of creation with a day: an order looks at the midnight that starts the day,
equality at the whole day. -/
def dateTest (op : TokenKind) (value : Expr) : Except EvalError (Instant → Bool) := do
  if op ∈ [.eq, .ne, .lt, .le, .gt, .ge] then
    let literal ← expectText value
    match Date.ofDayText? literal.toList with
    | none => .error (.invalidDate literal)
    | some day =>
      match op with
      | .gt | .ge => .ok fun t => Instant.midnight day < t
      | .lt | .le => .ok fun t => t < Instant.midnight day
      | .eq => .ok fun t => t.date = day
      | _ => .ok fun t => t.date ≠ day
  else .error (.wrongOperator .date op)

/-- Looking for a text in the items, which are joined by single spaces. -/
def itemsTest (field : Field) (op : TokenKind) (value : Expr) :
    Except EvalError (List String → Bool) := do
  if op = .eq ∨ op = .ne then
    let needle ← expectText value
    let found := fun items => occursIn needle.toList (" ".intercalate items).toList
    if op = .eq then .ok found else .ok fun items => !found items
  else .error (.wrongOperator field op)

/-- Comparing a text in the order of its characters, with a pattern, or with the items of a list. -/
def textTest (field : Field) (op : TokenKind) (value : Expr) :
    Except EvalError (String → Bool) := do
  match op, value with
  | .oneOf, .list items => .ok fun s => items.contains s
  | .oneOf, other => .error (.unexpectedOperand .list other.kind)
  | .eq, _ => let e ← expectText value; .ok fun s => s = e
  | .ne, _ => let e ← expectText value; .ok fun s => s ≠ e
  | .gt, _ => let e ← expectText value; .ok fun s => e < s
  | .ge, _ => let e ← expectText value; .ok fun s => e ≤ s
  | .lt, _ => let e ← expectText value; .ok fun s => s < e
  | .le, _ => let e ← expectText value; .ok fun s => s ≤ e
  | .like, _ =>
    let e ← expectText value
    match Pattern.ofText? e with
    | some pattern => .ok pattern.occursIn
    | none => .error (.invalidPattern e)
  | op, _ => .error (.wrongOperator field op)

/-- The test that an operator and its right side make of a field. -/
def Field.test (field : Field) (op : TokenKind) (value : Expr) :
    Except EvalError (Album → Bool) :=
  match field with
  | .date => (· ∘ Album.createdAt) <$> dateTest op value
  | .tag => (· ∘ Album.tags) <$> itemsTest .tag op value
  | .userPermissions => (· ∘ Album.userOwners) <$> itemsTest .userPermissions op value
  | .groupPermissions => (· ∘ Album.groupOwners) <$> itemsTest .groupPermissions op value
  | .name => (· ∘ Album.name) <$> textTest .name op value
  | .description => (· ∘ Album.description) <$> textTest .description op value
  | .location => (· ∘ Album.location) <$> textTest .location op value
  | .owner => (· ∘ Album.owner) <$> textTest .owner op value

/-- The test that a comparison makes of an album. -/
def comparisonTest (left : Expr) (op : TokenKind) (right : Expr) :
    Except EvalError (Album → Bool) :=
  match left with
  | .field name =>
    match Field.ofText? name with
    | some field => field.test op right
    | none => .error (.unknownField name (suggestion name))
  | other => .error (.unexpectedOperand .field other.kind)

def compareAlbum (a : Album) (left : Expr) (op : TokenKind) (right : Expr) :
    Except EvalError Bool :=
  (· a) <$> comparisonTest left op right

/-! ## Comparing in one pass

The checks and the comparison with the value of an album can also be made in one pass: first the
operator, then the right side, then the comparison. There an error could depend on the value. The
answers are those of the tests, so it never does.
-/

def dateAnswer (op : TokenKind) (value : Expr) (t : Instant) : Except EvalError Bool := do
  if op ∉ [.eq, .ne, .lt, .le, .gt, .ge] then .error (.wrongOperator .date op)
  else
    let literal ← expectText value
    match Date.ofDayText? literal.toList with
    | none => .error (.invalidDate literal)
    | some day =>
      let midnight := Instant.midnight day
      match op with
      | .gt | .ge => .ok (midnight < t)
      | .lt | .le => .ok (t < midnight)
      | .eq => .ok (t.date = day)
      | _ => .ok (t.date ≠ day)

def itemsAnswer (field : Field) (op : TokenKind) (value : Expr) (items : List String) :
    Except EvalError Bool := do
  if op ≠ .eq ∧ op ≠ .ne then .error (.wrongOperator field op)
  else
    let needle ← expectText value
    let found := occursIn needle.toList (" ".intercalate items).toList
    .ok (if op = .eq then found else !found)

def textAnswer (field : Field) (op : TokenKind) (value : Expr) (actual : String) :
    Except EvalError Bool := do
  if op = .oneOf then
    match value with
    | .list items => .ok (items.any (· == actual))
    | other => .error (.unexpectedOperand .list other.kind)
  else if !op.isComparison then .error (.wrongOperator field op)
  else
    let expected ← expectText value
    match op with
    | .eq => .ok (actual = expected)
    | .ne => .ok (actual ≠ expected)
    | .gt => .ok (expected < actual)
    | .ge => .ok (expected ≤ actual)
    | .lt => .ok (actual < expected)
    | .le => .ok (actual ≤ expected)
    | .like =>
      match Pattern.ofText? expected with
      | some pattern => .ok (pattern.occursIn actual)
      | none => .error (.invalidPattern expected)
    | op => .error (.wrongOperator field op)

def Field.answer (field : Field) (op : TokenKind) (value : Expr) (a : Album) :
    Except EvalError Bool :=
  match field with
  | .date => dateAnswer op value a.createdAt
  | .tag => itemsAnswer .tag op value a.tags
  | .userPermissions => itemsAnswer .userPermissions op value a.userOwners
  | .groupPermissions => itemsAnswer .groupPermissions op value a.groupOwners
  | .name => textAnswer .name op value a.name
  | .description => textAnswer .description op value a.description
  | .location => textAnswer .location op value a.location
  | .owner => textAnswer .owner op value a.owner

def comparisonAnswer (a : Album) (left : Expr) (op : TokenKind) (right : Expr) :
    Except EvalError Bool :=
  match left with
  | .field name =>
    match Field.ofText? name with
    | some field => field.answer op right a
    | none => .error (.unknownField name (suggestion name))
  | other => .error (.unexpectedOperand .field other.kind)

theorem dateTest_apply (op : TokenKind) (value : Expr) (t : Instant) :
    (· t) <$> dateTest op value = dateAnswer op value t := by
  by_cases hop : op ∈ [.eq, .ne, .lt, .le, .gt, .ge]
  · rw [dateTest, if_pos hop, dateAnswer, if_neg (not_not_intro hop)]
    cases value with
    | text literal =>
      simp only [expectText, bind, Except.bind]
      cases Date.ofDayText? literal.toList with
      | none => rfl
      | some day => cases op <;> rfl
    | _ => rfl
  · rw [dateTest, if_neg hop, dateAnswer, if_pos hop]
    rfl

theorem itemsTest_apply (field : Field) (op : TokenKind) (value : Expr) (items : List String) :
    (· items) <$> itemsTest field op value = itemsAnswer field op value items := by
  cases op <;> cases value <;> rfl

theorem textTest_apply (field : Field) (op : TokenKind) (value : Expr) (s : String) :
    (· s) <$> textTest field op value = textAnswer field op value s := by
  cases op with
  | oneOf =>
    cases value with
    | list items => exact congrArg Except.ok List.any_beq'.symm
    | _ => rfl
  | like =>
    cases value with
    | text e =>
      simp only [textTest, textAnswer, expectText, bind, Except.bind]
      cases Pattern.ofText? e <;> rfl
    | _ => rfl
  | _ => cases value <;> rfl

/-- A test of a part of an album is applied to that part. -/
theorem apply_map_comp {ε α β : Type} (g : α → β) (test : Except ε (β → Bool)) (a : α) :
    (· a) <$> (· ∘ g) <$> test = (· (g a)) <$> test := by
  rw [Functor.map_map]
  rfl

theorem Field.test_apply (field : Field) (op : TokenKind) (value : Expr) (a : Album) :
    (· a) <$> field.test op value = field.answer op value a := by
  cases field with
  | date => rw [test, answer, apply_map_comp, dateTest_apply]
  | tag | userPermissions | groupPermissions => rw [test, answer, apply_map_comp, itemsTest_apply]
  | name | description | location | owner => rw [test, answer, apply_map_comp, textTest_apply]

/-- Testing an album and comparing it in one pass have the same answers and the same errors. -/
theorem compareAlbum_eq_comparisonAnswer (a : Album) (left : Expr) (op : TokenKind) (right : Expr) :
    compareAlbum a left op right = comparisonAnswer a left op right := by
  cases left with
  | field name =>
    rw [compareAlbum, comparisonTest, comparisonAnswer]
    cases Field.ofText? name with
    | none => rfl
    | some field => exact field.test_apply op right a
  | _ => rfl

/-! ## Evaluating a tree -/

/-- The answer of a combinator from those of its two sides. -/
def combine (op : TokenKind) (left right : Bool) : Bool :=
  if op = .and then left && right else left || right

/-- What a tree says of an album. An operand of a combinator must be an operator node itself. -/
def Expr.meaning (a : Album) : Expr → Except EvalError Bool
  | .binary l op r =>
    if op.isCombinator then do
      let left ← l.meaning a
      let right ← r.meaning a
      .ok (combine op left right)
    else compareAlbum a l op r
  | leaf => .error (.unexpectedOperand .expression leaf.kind)

/-- The work that is left while a tree is evaluated. -/
inductive Step
  | operand (e : Expr)
  | combine (op : TokenKind)
  deriving DecidableEq, Repr

namespace Step

def size : Step → Nat
  | operand e => 2 * e.size
  | combine _ => 1

/-- Does all steps in turn. The answers of finished operands are kept last first. There is no result
when a step finds too few answers or none is left at the end. -/
def run (a : Album) : List Step → List Bool → Option (Except EvalError Bool)
  | [], answers => answers.head?.map .ok
  | operand (.binary l op r) :: steps, answers =>
    if op.isCombinator then run a (operand l :: operand r :: combine op :: steps) answers
    else
      match compareAlbum a l op r with
      | .ok answer => run a steps (answer :: answers)
      | .error e => some (.error e)
  | operand leaf :: _, _ => some (.error (.unexpectedOperand .expression leaf.kind))
  | combine op :: steps, right :: left :: answers =>
    run a steps (AlbumCatalog.combine op left right :: answers)
  | combine _ :: _, _ => none
termination_by steps => totalOf size steps
decreasing_by all_goals simp [size, Expr.size]; try omega

end Step

/-- The answer of the filter for an album. -/
def Filter.matches (f : Filter) (a : Album) : Except EvalError Bool :=
  (Step.run a [.operand f.toExpr] []).getD (.ok false)

/-- The albums that pass the filter; the first album that cannot be evaluated ends it. -/
def Filter.select (f : Filter) : List Album → Except EvalError (List Album)
  | [] => .ok []
  | a :: rest => do
    let passes ← f.matches a
    let others ← f.select rest
    .ok (if passes then a :: others else others)

end AlbumCatalog
