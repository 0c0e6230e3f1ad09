import AlbumCatalog.Album.Basic

/-!
# Sorting albums

A sort is stable: albums with equal keys keep their order, in a reversed sort too.
-/

namespace AlbumCatalog

inductive SortField
  | id
  | name
  | owner
  | date
  | location
  deriving DecidableEq, Repr

inductive SortOrder
  | normal
  | reverse
  deriving DecidableEq, Repr

/-- A word with its letters from A to Z in lower case. -/
def lowerWord (word : String) : String :=
  String.ofList (word.toList.map Char.toLower)

namespace SortField

def all : List SortField :=
  [id, name, owner, date, location]

def text : SortField → String
  | id => "id"
  | name => "name"
  | owner => "owner"
  | date => "date"
  | location => "location"

def ofText? (word : String) : Option SortField :=
  all.find? (·.text == word)

/-- The field that a word names in any letter case; a date has a second name. -/
def ofWord? (word : String) : Option SortField :=
  if lowerWord word = "created_at" then some date else ofText? (lowerWord word)

/-- What is said of a word that names no sort field. -/
def unknown (word : String) : String :=
  "unknown sort field: " ++ lowerWord word

/-- Whether the first album may stand before the second one. -/
def le (field : SortField) (a b : Album) : Bool :=
  match field with
  | id => a.id.val ≤ b.id.val
  | name => a.name ≤ b.name
  | owner => a.owner ≤ b.owner
  | date => a.createdAt ≤ b.createdAt
  | location => a.location ≤ b.location

end SortField

namespace SortOrder

def text : SortOrder → String
  | normal => "normal"
  | reverse => "reverse"

/-- The order that a word names in any letter case. -/
def ofWord? (word : String) : Option SortOrder :=
  match lowerWord word with
  | "normal" | "asc" => some normal
  | "reverse" | "desc" => some reverse
  | _ => none

/-- What is said of a word that names no sort order. -/
def unknown (word : String) : String :=
  "unknown sort order: " ++ lowerWord word

end SortOrder

/-- A field to sort by and a direction. -/
structure Sorting where
  field : SortField
  order : SortOrder
  deriving DecidableEq, Repr

/-- Whether the first album may stand before the second one under the sort. -/
def Sorting.le (s : Sorting) (a b : Album) : Bool :=
  match s.order with
  | .normal => s.field.le a b
  | .reverse => s.field.le b a

def sortAlbums (s : Sorting) (albums : List Album) : List Album :=
  albums.mergeSort s.le

end AlbumCatalog
