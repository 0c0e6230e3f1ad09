/-!
# Tokens of the filter language

A filter is written with words, comparison signs, brackets and quoted strings. A word is a keyword,
in any letter case, or the name of a field.
-/

namespace AlbumCatalog

inductive TokenKind
  | illegal
  | endOfLine
  | and
  | or
  | eq
  | ne
  | lt
  | le
  | gt
  | ge
  | like
  | oneOf
  | leftBracket
  | rightBracket
  | comma
  | string
  | field
  deriving DecidableEq, Repr

namespace TokenKind

def all : List TokenKind :=
  [illegal, endOfLine, and, or, eq, ne, lt, le, gt, ge, like, oneOf, leftBracket, rightBracket,
    comma, string, field]

/-- The word or sign by which messages and canonical forms mention the kind. -/
def name : TokenKind → String
  | illegal => "illegal"
  | endOfLine => "EOL"
  | and => "and"
  | or => "or"
  | eq => "="
  | ne => "!="
  | lt => "<"
  | le => "<="
  | gt => ">"
  | ge => ">="
  | like => "like"
  | oneOf => "in"
  | leftBracket => "["
  | rightBracket => "]"
  | comma => ","
  | string => "string"
  | field => "variable"

/-- The kind of that name. -/
def ofName? (name : String) : Option TokenKind :=
  all.find? (·.name == name)

def isCombinator : TokenKind → Bool
  | and | or => true
  | _ => false

def isComparison : TokenKind → Bool
  | eq | ne | lt | le | gt | ge | like | oneOf => true
  | _ => false

/-- Reading a line stops at a token of this kind. -/
def isFinal : TokenKind → Bool
  | illegal | endOfLine => true
  | _ => false

/-- The keyword that a word spells, if it spells one; the letter case is free. -/
def keyword? (word : List Char) : Option TokenKind :=
  match word.map Char.toLower with
  | ['a', 'n', 'd'] => some and
  | ['o', 'r'] => some or
  | ['l', 'i', 'k', 'e'] => some like
  | ['i', 'n'] => some oneOf
  | _ => none

end TokenKind

/-- A token and where it starts. The literal of a field is its name, of a string its contents, of
an illegal token what is wrong with it; all other literals are empty. -/
structure Token where
  position : Nat
  kind : TokenKind
  literal : String
  deriving DecidableEq, Repr

end AlbumCatalog
