import AlbumCatalog.Text.Number
import AlbumCatalog.Unicode.CharSet

/-!
# Tables of code points

In a table, code points are hexadecimal numbers between blanks or line ends. `41-5A` stands for the
code points from the first to the last, and `100-12E/2` for every second one of them.
-/

namespace AlbumCatalog

/-- The pieces of a text between the characters that satisfy a test. -/
def splitWhere (test : Char → Bool) (cs : List Char) : List (List Char) :=
  cs.foldr (fun c pieces => if test c then [] :: pieces else pieces.modifyHead (c :: ·)) [[]]

/-- The non-empty pieces of a text between blanks and line ends. -/
def tableWords (text : String) : List (List Char) :=
  (splitWhere (fun c => c == ' ' || c == '\n') text.toList).filter (· ≠ [])

/-- The ranges of one entry. -/
def tableRanges (word : List Char) : List CodeRange :=
  let first := hexNumber (word.takeWhile (· != '-'))
  match (word.dropWhile (· != '-')).drop 1 with
  | [] => [⟨first, first⟩]
  | rest =>
    let last := hexNumber (rest.takeWhile (· != '/'))
    if rest.contains '/' then
      (List.range ((last - first) / 2 + 1)).map fun i => ⟨first + 2 * i, first + 2 * i⟩
    else [⟨first, last⟩]

def CharSet.ofTable (text : String) : CharSet :=
  ⟨(tableWords text).flatMap tableRanges⟩

/-- A set of characters with the names that it goes by. -/
structure NamedSet where
  names : List String
  table : String

/-- The set of the first entry that has the name. -/
def findSet? (entries : List NamedSet) (name : String) : Option CharSet :=
  (entries.find? (·.names.contains name)).map fun e => CharSet.ofTable e.table

end AlbumCatalog
