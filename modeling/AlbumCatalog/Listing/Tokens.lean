import AlbumCatalog.Filter.Expr
import AlbumCatalog.Json.Write
import AlbumCatalog.Listing.Cell
import AlbumCatalog.Text.Characters

/-!
# Tokens and filters as output
-/

namespace AlbumCatalog

/-- A line of the table of tokens, without white space at its end. -/
def tokenLine (position name literal : List Char) : List Char :=
  trimEnd (padRight 5 position ++ ' ' :: padRight 10 name ++ ' ' :: literal)

def tokenHeader : List Char :=
  padRight 5 "Pos".toList ++ ' ' :: padRight 10 "Token".toList ++ ' ' :: "Literal".toList

/-- The name of an illegal token is red; the codes count for the width of its cell. -/
def Token.line (colors : Bool) (t : Token) : List Char :=
  tokenLine (decimal t.position)
    (Style.red.paintIf (colors && t.kind == .illegal) t.kind.name.toList) t.literal.toList

def tokenTable (colors : Bool) (tokens : List Token) : String :=
  String.ofList
    (Style.dimmed.paintIf colors tokenHeader ++ '\n' ::
      tokens.flatMap fun t => t.line colors ++ ['\n'])

def Token.json (t : Token) : Json :=
  .object [
    ("position", .number t.position),
    ("token", .string t.kind.name),
    ("literal", .string t.literal)]

/-- A filter as it was given and in its canonical form. -/
def Filter.json (expression : String) (f : Filter) : Json :=
  .object [("expression", .string expression), ("canonical", .string f.canonical)]

end AlbumCatalog
