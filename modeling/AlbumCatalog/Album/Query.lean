import AlbumCatalog.Album.Sort
import AlbumCatalog.Filter.Evaluate

/-!
# Queries

A query filters a list of albums, sorts what passes, and cuts a page out of it. An album that the
filter cannot be evaluated for is left out and counted, or ends a strict query.
-/

namespace AlbumCatalog

structure Query where
  filter : Option Filter := none
  sorting : Option Sorting := none
  /-- The most albums on a page; 0 sets no limit. -/
  limit : Nat := 0
  offset : Nat := 0
  strict : Bool := false

/-- The albums that passed a filter, and those it gave no answer for, with the reason. -/
structure Screened where
  passed : List Album := []
  unresolved : List (Album × EvalError) := []

/-- Applies a filter to each album. A strict screening ends at the first error. -/
def screen (f : Filter) (strict : Bool) : List Album → Except EvalError Screened
  | [] => .ok {}
  | a :: rest =>
    match f.matches a with
    | .ok passes => do
      let s ← screen f strict rest
      .ok (if passes then { s with passed := a :: s.passed } else s)
    | .error e =>
      if strict then .error e
      else do
        let s ← screen f strict rest
        .ok { s with unresolved := (a, e) :: s.unresolved }

/-- A page of the result. `total` counts the albums of all pages. -/
structure Page where
  albums : List Album
  total : Nat
  unresolved : List (Album × EvalError)

/-- The number of albums left out for an error. -/
def Page.skipped (p : Page) : Nat :=
  p.unresolved.length

namespace Query

def screened (q : Query) (albums : List Album) : Except EvalError Screened :=
  match q.filter with
  | some f => screen f q.strict albums
  | none => .ok { passed := albums }

def sorted (q : Query) (albums : List Album) : List Album :=
  match q.sorting with
  | some s => sortAlbums s albums
  | none => albums

def paginate (q : Query) (albums : List Album) : List Album :=
  let rest := albums.drop q.offset
  if 0 < q.limit then rest.take q.limit else rest

def run (q : Query) (albums : List Album) : Except EvalError Page := do
  let s ← q.screened albums
  let passed := q.sorted s.passed
  .ok ⟨q.paginate passed, passed.length, s.unresolved⟩

end Query

end AlbumCatalog
