/-!
# Cells of a table

Widths count characters. Styled text is set between ANSI codes.
-/

namespace AlbumCatalog

/-- The text, or as many of its characters as leave room for three dots. -/
def truncate (most : Nat) (s : List Char) : List Char :=
  if most < s.length then s.take (most - 3) ++ ['.', '.', '.'] else s

/-- The text with blanks behind it up to the width. -/
def padRight (width : Nat) (s : List Char) : List Char :=
  s ++ List.replicate (width - s.length) ' '

/-- Tags with a hash before each. -/
def tagsCell (most : Nat) (tags : List String) : List Char :=
  truncate most (" ".intercalate (tags.map fun t => "#" ++ t)).toList

inductive Style
  | dimmed
  | bold
  | red
  | green
  deriving DecidableEq, Repr

namespace Style

def opening : Style → String
  | dimmed => "\x1b[2m"
  | bold => "\x1b[1m"
  | red => "\x1b[31m"
  | green => "\x1b[32m"

def closing : Style → String
  | dimmed => "\x1b[0m"
  | bold => "\x1b[0m"
  | red => "\x1b[39m"
  | green => "\x1b[39m"

/-- The text between the codes of the style. -/
def paint (style : Style) (s : List Char) : List Char :=
  style.opening.toList ++ s ++ style.closing.toList

/-- The text between the codes of the style, if colors are wanted. -/
def paintIf (colors : Bool) (style : Style) (s : List Char) : List Char :=
  if colors then style.paint s else s

end Style

end AlbumCatalog
