/-!
# Edit distance

The least number of insertions, deletions and substitutions of single characters that turn one text
into another. `distanceRow` holds the distances from a text to every suffix of the other, so that
each pair of suffixes is looked at once.
-/

namespace AlbumCatalog

/-- The distances from a longer text to the suffixes, from those of the text without its first
character. The row ends with the distance to the empty suffix. -/
def extendRow (c : Char) : List Char → List Nat → List Nat
  | d :: ds, n :: row =>
    let tail := extendRow c ds row
    let substituted := row.headD 0 + if c = d then 0 else 1
    min substituted (min (n + 1) (tail.headD 0 + 1)) :: tail
  | _, row => [row.headD 0 + 1]

/-- The distances from nothing to the suffixes of a text. -/
def emptyRow : List Char → List Nat
  | [] => [0]
  | c :: cs => (c :: cs).length :: emptyRow cs

def distanceRow (cs ds : List Char) : List Nat :=
  cs.foldr (fun c row => extendRow c ds row) (emptyRow ds)

def editDistance (s t : String) : Nat :=
  (distanceRow s.toList t.toList).headD 0

end AlbumCatalog
