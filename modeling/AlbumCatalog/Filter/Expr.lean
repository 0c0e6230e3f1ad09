import AlbumCatalog.Filter.Token
import AlbumCatalog.Text.Characters

/-!
# Filter expressions

A filter is a tree whose inner nodes hold an operator. Filters read from text are chains that lean
to the left, as deep as they are long, so rendering and comparing keep their pending work in a list.
`Expr.render` says what `Filter.canonical` writes, and equality of trees what `Filter.same` decides.
-/

namespace AlbumCatalog

inductive Expr
  | binary (left : Expr) (op : TokenKind) (right : Expr)
  | field (name : String)
  | text (value : String)
  | list (items : List String)
  deriving DecidableEq, Repr

/-- What an operand is, as messages call it. -/
inductive OperandKind
  | expression
  | field
  | text
  | list
  deriving DecidableEq, Repr

def OperandKind.name : OperandKind → String
  | expression => "expression"
  | field => "variable"
  | text => "string"
  | list => "list"

namespace Expr

def kind : Expr → OperandKind
  | binary .. => .expression
  | field _ => .field
  | text _ => .text
  | list _ => .list

/-- The number of nodes, leaves included. -/
def size : Expr → Nat
  | binary l _ r => l.size + r.size + 1
  | _ => 1

/-- Puts a backslash before each quote and each backslash. -/
def escape (s : String) : String :=
  String.ofList (s.toList.flatMap fun c => if c = '"' ∨ c = '\\' then ['\\', c] else [c])

def quote (s : String) : String :=
  "\"" ++ escape s ++ "\""

/-- Names and strings are quoted, the items of a list are written as they are. A node is written
in parentheses. -/
def render : Expr → String
  | binary l op r => "(" ++ l.render ++ (" " ++ op.name ++ " ") ++ r.render ++ ")"
  | field name => quote name
  | text value => quote value
  | list items => "[" ++ ",".intercalate items ++ "]"

end Expr

/-- The root node of a filter expression. -/
structure Filter where
  left : Expr
  op : TokenKind
  right : Expr
  deriving DecidableEq, Repr

/-- What is still to be written of a tree: whole expressions, and words between them. -/
inductive Written
  | expr (e : Expr)
  | word (w : String)

namespace Written

def size : Written → Nat
  | expr e => 3 * e.size
  | word _ => 1

/-- Writes all pending pieces behind the text that is already there. -/
def all : List Written → String → String
  | [], out => out
  | word w :: rest, out => all rest (out ++ w)
  | expr (.binary l op r) :: rest, out =>
    all (expr l :: word (" " ++ op.name ++ " ") :: expr r :: word ")" :: rest) (out ++ "(")
  | expr (.field name) :: rest, out => all rest (out ++ Expr.quote name)
  | expr (.text value) :: rest, out => all rest (out ++ Expr.quote value)
  | expr (.list items) :: rest, out => all rest (out ++ ("[" ++ ",".intercalate items ++ "]"))
termination_by pieces => totalOf size pieces
decreasing_by all_goals simp [size, Expr.size]; try omega

end Written

namespace Filter

def toExpr (f : Filter) : Expr :=
  .binary f.left f.op f.right

def isCombinator (f : Filter) : Bool :=
  f.op.isCombinator

/-- The filter in its fully parenthesized form. -/
def canonical (f : Filter) : String :=
  Written.all [.expr f.toExpr] ""

/-- Whether the two expressions of every pair are the same. -/
def allSame : List (Expr × Expr) → Bool
  | [] => true
  | (.binary l op r, .binary l' op' r') :: rest =>
    op == op' && allSame ((l, l') :: (r, r') :: rest)
  | (.field a, .field b) :: rest => a == b && allSame rest
  | (.text a, .text b) :: rest => a == b && allSame rest
  | (.list a, .list b) :: rest => a == b && allSame rest
  | _ :: _ => false
termination_by pairs => totalOf (·.1.size) pairs
decreasing_by all_goals simp [Expr.size]; try omega

/-- Whether two filters are the same tree. -/
def same (f g : Filter) : Bool :=
  allSame [(f.toExpr, g.toExpr)]

end Filter

end AlbumCatalog
