import AlbumCatalog.Album.Basic
import AlbumCatalog.Filter.Expr
import AlbumCatalog.Text.EditDistance

/-!
# Filters that cannot be applied

The reasons why a filter gives no answer, and the field that was probably meant by an unknown name.
-/

namespace AlbumCatalog

inductive EvalError
  | wrongOperator (field : Field) (op : TokenKind)
  | unknownField (name : String) (suggestion : Option Field)
  | invalidDate (value : String)
  | invalidPattern (pattern : String)
  | unexpectedOperand (expected found : OperandKind)
  deriving DecidableEq, Repr

namespace EvalError

/-- The text of the error. For a pattern the reason of its refusal would follow; it is left open. -/
def message : EvalError → String
  | wrongOperator field op =>
    "wrong op: '" ++ op.name ++ "' cannot be used with field '" ++ field.text ++ "'"
  | unknownField name suggestion =>
    "album field not found: '" ++ name ++ "'" ++
      match suggestion with
      | some field => " (did you mean '" ++ field.text ++ "'?)"
      | none => ""
  | invalidDate value => "expected date (DD/MM/YYYY) instead of '" ++ value ++ "'"
  | invalidPattern pattern => "failed to compile pattern '" ++ pattern ++ "': "
  | unexpectedOperand expected found =>
    "expected " ++ expected.name ++ " instead of " ++ found.name

end EvalError

/-- The farthest that a field may be from a name to be suggested for it. -/
def suggestionReach : Nat := 3

/-- The candidate of the least distance, the first of several. -/
def nearest (distance : α → Nat) : List α → Option α
  | [] => none
  | a :: rest =>
    match nearest distance rest with
    | some b => if distance b < distance a then some b else some a
    | none => some a

/-- The field that was probably meant by a name that is no field's. -/
def suggestion (name : String) : Option Field :=
  let distance := fun f : Field => editDistance name f.text
  (nearest distance Field.all).filter fun f => 0 < distance f && distance f ≤ suggestionReach

end AlbumCatalog
