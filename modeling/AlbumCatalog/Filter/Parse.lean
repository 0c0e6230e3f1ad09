import AlbumCatalog.Filter.Expr
import AlbumCatalog.Filter.Scan

/-!
# Reading a filter from its tokens

A filter is a chain of comparisons joined by `and` and `or`, which lean to the left. Reading takes
one token at a time from one grammar state to the next; the state says which tokens may come. The
first token that may not come is reported with its position.
-/

namespace AlbumCatalog

/-- What is wrong with the token at which reading stopped. -/
inductive ParseProblem
  | illegal (literal : String)
  | expectedField (found : TokenKind)
  | expectedOperator (found : TokenKind)
  | expectedString (found : TokenKind)
  | expectedSeparator (found : TokenKind)
  | afterComparison (found : TokenKind)
  deriving DecidableEq, Repr

def ParseProblem.message : ParseProblem → String
  | illegal literal => literal
  | expectedField found => "expected variable instead of " ++ found.name
  | expectedOperator found => "expected operator instead of " ++ found.name
  | expectedString found => "expected string instead of " ++ found.name
  | expectedSeparator found => "expected ',' or ']' instead of " ++ found.name
  | afterComparison found => "unexpected expression after comparison: " ++ found.name

/-- A text that is no filter, with the byte position of the token that shows it. -/
structure ParseError where
  position : Nat
  problem : ParseProblem
  deriving DecidableEq, Repr

namespace ParseError

def message (e : ParseError) : String :=
  e.problem.message

def describe (e : ParseError) : String :=
  "parse error at " ++ toString e.position ++ ": " ++ e.message

/-- The message for the person who wrote the filter. -/
def diagnostic (e : ParseError) : String :=
  "invalid filter expression near character " ++ toString e.position ++ ": " ++ e.message

end ParseError

/-- The comparisons that are already joined and the combinator behind them, if there are any. -/
abbrev Joined := Option (Filter × TokenKind)

/-- Puts a comparison at the end of the chain. -/
def Joined.close (before : Joined) (comparison : Filter) : Filter :=
  match before with
  | none => comparison
  | some (chain, op) => ⟨chain.toExpr, op, comparison.toExpr⟩

/-- The state of the grammar, named for the token that it waits for, with what was read before. -/
inductive Awaiting
  | field (before : Joined)
  | operator (before : Joined) (name : String)
  | value (before : Joined) (name : String) (op : TokenKind)
  | item (before : Joined) (name : String) (op : TokenKind) (items : List String)
  | separator (before : Joined) (name : String) (op : TokenKind) (items : List String)
  | combinator (chain : Filter)
  deriving DecidableEq, Repr

namespace Awaiting

/-- Why a token of this kind cannot come in this state. -/
def refusal (found : TokenKind) : Awaiting → ParseProblem
  | field _ => .expectedField found
  | operator .. => .expectedOperator found
  | value .. => .expectedString found
  | item .. => .expectedString found
  | separator .. => .expectedSeparator found
  | combinator _ => .afterComparison found

def refuse (s : Awaiting) (t : Token) : ParseError :=
  ⟨t.position, if t.kind = .illegal then .illegal t.literal else s.refusal t.kind⟩

/-- The state after a token. List items are kept last first. -/
def next (s : Awaiting) (t : Token) : Except ParseError Awaiting :=
  match s, t.kind with
  | field before, .field => .ok (operator before t.literal)
  | operator before name, op =>
    if op.isComparison then .ok (value before name op) else .error (s.refuse t)
  | value before name op, .string =>
    .ok (combinator (before.close ⟨.field name, op, .text t.literal⟩))
  | value before name op, .leftBracket => .ok (item before name op [])
  | item before name op items, .string => .ok (separator before name op (t.literal :: items))
  | separator before name op items, .comma => .ok (item before name op items)
  | separator before name op items, .rightBracket =>
    .ok (combinator (before.close ⟨.field name, op, .list items.reverse⟩))
  | combinator chain, .and => .ok (field (some (chain, .and)))
  | combinator chain, .or => .ok (field (some (chain, .or)))
  | s, _ => .error (s.refuse t)

/-- The filter that was read when the last token comes; it must be the end of the line. -/
def finish (s : Awaiting) (t : Token) : Except ParseError Filter :=
  match s, t.kind with
  | combinator chain, .endOfLine => .ok chain
  | s, _ => .error (s.refuse t)

end Awaiting

/-- The filter that the tokens spell. -/
def Filter.ofTokens (l : TokenLine) : Except ParseError Filter := do
  let s ← l.body.foldlM Awaiting.next (.field none)
  s.finish l.last

/-- The filter that a text spells. -/
def Filter.parse (text : String) : Except ParseError Filter :=
  Filter.ofTokens (tokenize text)

end AlbumCatalog
