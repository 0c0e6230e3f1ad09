/-!
# Paths

A path is a text whose components are set apart by slashes. What stands before the components, its
anchor, is a slash for an absolute path and a dot for one that begins at the working directory by
name. Empty components and lone dots behind the anchor mean nothing.
-/

namespace AlbumCatalog

structure Path where
  text : String
  deriving DecidableEq, Repr

/-- The pieces of a text between slashes. -/
def cutAtSlashes : List Char → List (List Char)
  | [] => [[]]
  | c :: cs =>
    if c = '/' then [] :: cutAtSlashes cs
    else
      match cutAtSlashes cs with
      | [] => [[c]]
      | piece :: pieces => (c :: piece) :: pieces

/-- Pieces with a slash between each two. -/
def joinWithSlashes : List (List Char) → List Char
  | [] => []
  | [piece] => piece
  | piece :: pieces => piece ++ '/' :: joinWithSlashes pieces

theorem cutAtSlashes_ne_nil (cs : List Char) : cutAtSlashes cs ≠ [] := by
  cases cs with
  | nil => simp [cutAtSlashes]
  | cons c cs =>
    rw [cutAtSlashes]
    split
    · simp
    · split <;> simp

theorem joinWithSlashes_cons (piece : List Char) {pieces : List (List Char)} (h : pieces ≠ []) :
    joinWithSlashes (piece :: pieces) = piece ++ '/' :: joinWithSlashes pieces := by
  cases pieces with
  | nil => contradiction
  | cons p ps => rfl

theorem joinWithSlashes_cutAtSlashes (cs : List Char) : joinWithSlashes (cutAtSlashes cs) = cs := by
  induction cs with
  | nil => rfl
  | cons c cs ih =>
    rw [cutAtSlashes]
    split
    next h => rw [joinWithSlashes_cons [] (cutAtSlashes_ne_nil cs), ih, h, List.nil_append]
    next h =>
      cases hp : cutAtSlashes cs with
      | nil => exact absurd hp (cutAtSlashes_ne_nil cs)
      | cons piece pieces =>
        rw [hp] at ih
        cases pieces with
        | nil => simpa [joinWithSlashes] using ih
        | cons p ps => simpa [joinWithSlashes] using ih

/-- The end of a name from its last dot on, without that dot, and what stands before the dot. A dot
at the very start of a name does not count. -/
def splitExtension? (name : List Char) : Option (List Char × List Char) :=
  let ext := (name.reverse.takeWhile (· ≠ '.')).reverse
  let stem := name.take (name.length - ext.length - 1)
  if stem.isEmpty then none else some (stem, ext)

/-- A name without its extension. -/
def nameStem (name : List Char) : List Char :=
  match splitExtension? name with
  | some (stem, _) => stem
  | none => name

namespace Path

instance : ToString Path := ⟨Path.text⟩

def isAbsolute (p : Path) : Bool :=
  p.text.toList.head? == some '/'

/-- Whether a slash ends the path, so that it can only name a directory. -/
def endsInSlash (p : Path) : Bool :=
  p.text.toList.getLast? == some '/'

def anchor (p : Path) : List Char :=
  match p.text.toList with
  | '/' :: _ => ['/']
  | ['.'] => ['.']
  | '.' :: '/' :: _ => ['.']
  | _ => []

/-- Whether a piece behind the anchor names nothing. -/
def isBlankPiece (piece : List Char) : Bool :=
  piece == [] || piece == ['.']

/-- The pieces behind the anchor, last first. -/
def piecesFromEnd (p : Path) : List (List Char) :=
  (cutAtSlashes (p.text.toList.drop p.anchor.length)).reverse

/-- The path of an anchor and the pieces behind it, last first. -/
def ofPieces (anchor : List Char) (fromEnd : List (List Char)) : Path :=
  ⟨String.ofList (anchor ++ joinWithSlashes fromEnd.reverse)⟩

def ancestorsOfPieces (anchor : List Char) : List (List Char) → List Path
  | [] => if anchor = ['.'] then [⟨""⟩] else []
  | piece :: rest =>
    if isBlankPiece piece then ancestorsOfPieces anchor rest
    else ofPieces anchor (rest.dropWhile isBlankPiece) :: ancestorsOfPieces anchor rest

/-- The directories that the path leads through, the nearest first. -/
def ancestors (p : Path) : List Path :=
  ancestorsOfPieces p.anchor p.piecesFromEnd

def parent? (p : Path) : Option Path :=
  p.ancestors.head?

/-- The path with another extension of its last name, or the path itself where its last component
is no name. Of a last name that begins with its only two dots, as in `..x`, the dots alone are kept,
if nothing stands behind it. -/
def withExtension (p : Path) (ext : String) : Path :=
  match p.piecesFromEnd.dropWhile isBlankPiece with
  | [] => p
  | name :: rest =>
    if name = ['.', '.'] then p
    else if nameStem name = ['.'] ∧ p.piecesFromEnd.head? = some name then
      ofPieces p.anchor (['.', '.'] :: rest)
    else ofPieces p.anchor ((nameStem name ++ '.' :: ext.toList) :: rest)

/-- The path of a name inside the directory of a path. -/
def child (p : Path) (name : String) : Path :=
  if p.text.isEmpty || p.endsInSlash then ⟨p.text ++ name⟩ else ⟨p.text ++ "/" ++ name⟩

/-- The components that a walk along the path goes through. -/
def components (p : Path) : List String :=
  let pieces := (cutAtSlashes p.text.toList).filter (· ≠ [])
  if pieces.isEmpty then ["."] else pieces.map String.ofList

end Path

end AlbumCatalog
