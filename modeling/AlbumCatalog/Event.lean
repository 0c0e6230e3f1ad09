import AlbumCatalog.Album.Query
import AlbumCatalog.Album.Store
import AlbumCatalog.Config.Basic
import AlbumCatalog.Filter.Parse

/-!
# Events

What the program reports about its work beside its results.
-/

namespace AlbumCatalog

inductive Event
  | compiled (f : Filter)
  | unresolved (a : Album) (e : EvalError)
  | queried (total skipped returned : Nat)
  | loadedAlbums (path : Path) (count : Nat)
  | loadedConfig (path : Path)
  | imported (source target : Path) (count : Nat)

namespace Event

def isWarning : Event → Bool
  | unresolved .. => true
  | _ => false

def message : Event → String
  | compiled _ => "compiled filter expression"
  | unresolved .. => "failed to resolve album"
  | queried .. => "album query done"
  | loadedAlbums .. => "loaded albums"
  | loadedConfig _ => "loaded config"
  | imported .. => "imported albums"

/-- The values that come with the message, by name. -/
def fields : Event → List (String × String)
  | compiled f => [("filter", f.canonical)]
  | unresolved a e => [("album_id", toString a.id.val), ("error", e.message)]
  | queried total skipped returned =>
    [("total", toString total), ("skipped", toString skipped), ("returned", toString returned)]
  | loadedAlbums path count => [("path", path.text), ("count", toString count)]
  | loadedConfig path => [("path", path.text)]
  | imported source target count =>
    [("source", source.text), ("target", target.text), ("count", toString count)]

/-- The events of reading a filter. -/
def ofParse : Except ParseError Filter → List Event
  | .ok f => [compiled f]
  | .error _ => []

/-- The events of a query. -/
def ofQuery : Except EvalError Page → List Event
  | .ok p =>
    p.unresolved.map (fun (a, e) => unresolved a e) ++ [queried p.total p.skipped p.albums.length]
  | .error _ => []

/-- The events of loading albums from a file. -/
def ofLoad (path : Path) : Except StoreError (List Album) → List Event
  | .ok albums => [loadedAlbums path albums.length]
  | .error _ => []

/-- The events of loading a configuration, if its file is there. -/
def ofConfig (path : Path) : Except ConfigError (Option Config) → List Event
  | .ok (some _) => [loadedConfig path]
  | _ => []

end Event

end AlbumCatalog
