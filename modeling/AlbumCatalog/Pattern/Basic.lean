import AlbumCatalog.Pattern.Group
import AlbumCatalog.Pattern.Search
import AlbumCatalog.Pattern.Size

/-!
# Patterns for text

A pattern is a regular expression that may be found anywhere in a text. `Pattern.ofText?` refuses
what is not spelt as an expression, names a property that is in no table, is nested too deep, or is
too large by the estimate of its size.
-/

namespace AlbumCatalog

structure Pattern where
  regex : Regex
  deriving DecidableEq, Repr

/-- The greatest depth of the nesting of groups, classes, repetitions, sequences and choices. -/
def nestingLimit : Nat := 250

def Pattern.ofText? (text : String) : Option Pattern :=
  match readPattern? text.toList with
  | some part =>
    if part.depth ≤ nestingLimit ∧ part.regex.size ≤ sizeLimit then some ⟨part.regex⟩ else none
  | none => none

/-- Whether some part of the text is one that the pattern describes. -/
def Pattern.occursIn (p : Pattern) (text : String) : Bool :=
  p.regex.foundIn text

end AlbumCatalog
