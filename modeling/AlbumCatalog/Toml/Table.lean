/-!
# TOML tables

Settings, headers and dotted keys build up tables. How a table came to be decides what may still be
added to it: a table written out in braces is closed, one named by a header takes no dotted keys
from outside, and one that only a longer header named may still get a header of its own.
-/

namespace AlbumCatalog

inductive TomlForm
  /-- Written in braces. -/
  | braces
  /-- Begun by a dotted key in braces. -/
  | dottedInBraces
  /-- Named by a header, or the table of the whole text. -/
  | header
  /-- Only named on the way to the table of a header. -/
  | implied
  /-- Begun by a dotted key. -/
  | dotted
  deriving DecidableEq, Repr

inductive Toml
  | string (s : String)
  | integer (n : Int)
  | real
  | boolean (b : Bool)
  /-- A date, a time of day, or both. -/
  | moment
  | array (items : List Toml)
  | table (form : TomlForm) (members : List (String × Toml))
  /-- The tables of one header in double brackets, each of which stands on its own. -/
  | tables (items : List (List (String × Toml)))

/-- Keys and values, in the order in which they were set. -/
abbrev TomlMembers := List (String × Toml)

namespace TomlMembers

/-- Replaces the value of a key, or adds the key at the end. -/
def set (ms : TomlMembers) (key : String) (v : Toml) : TomlMembers :=
  if (ms.lookup key).isSome then ms.map fun (k, old) => if k = key then (k, v) else (k, old)
  else ms ++ [(key, v)]

/-- What leads from table to table: a header, dotted keys of a line, or dotted keys in braces. -/
inductive Route
  | byHeader
  | byKeys
  | inBraces
  deriving DecidableEq, Repr

/-- The form of a table that the route begins. -/
def Route.begins : Route → TomlForm
  | byHeader => .implied
  | byKeys => .dotted
  | inBraces => .dottedInBraces

/-- Whether the route may go into a table. -/
def Route.enters : Route → TomlForm → Bool
  | byHeader, .header | byHeader, .implied | byHeader, .dotted => true
  | byKeys, .implied | byKeys, .dotted => true
  | inBraces, .dottedInBraces => true
  | _, _ => false

/-- Changes the table at the end of a path, and begins the tables that are missing on the way. Of
the tables of one header, a path leads into the last. -/
def changeAt (route : Route) (f : TomlForm → TomlMembers → Option TomlMembers) :
    List String → TomlForm → TomlMembers → Option TomlMembers
  | [], form, ms => f form ms
  | key :: path, _, ms =>
    match ms.lookup key with
    | none => do
      let inner ← changeAt route f path route.begins []
      some (ms.set key (.table route.begins inner))
    | some (.table form inner) =>
      if route.enters form then do
        let inner ← changeAt route f path form inner
        some (ms.set key (.table form inner))
      else none
    | some (.tables items) =>
      if route = .inBraces then none
      else
        match items.getLast? with
        | none => none
        | some inner => do
          let inner ← changeAt route f path .header inner
          some (ms.set key (.tables (items.dropLast ++ [inner])))
    | some _ => none

/-- Sets a key that is not there yet. Behind a path, the key must go into a table of dotted keys. -/
def addSetting (route : Route) (ms : TomlMembers) (path : List String) (key : String) (v : Toml) :
    Option TomlMembers :=
  changeAt route
    (fun form inner =>
      if (!path.isEmpty && form ≠ route.begins) || (inner.lookup key).isSome then none
      else some (inner ++ [(key, v)]))
    path .header ms

/-- Adds the table of a header. A table that was only implied so far keeps what it holds. -/
def addTable (ms : TomlMembers) (path : List String) (key : String)
    (fill : TomlMembers → Option TomlMembers) : Option TomlMembers :=
  changeAt .byHeader
    (fun _ outer =>
      match outer.lookup key with
      | none => do some (outer ++ [(key, .table .header (← fill []))])
      | some (.table .implied inner) => do
        some (outer.filter (fun (k, _) => k ≠ key) ++ [(key, .table .header (← fill inner))])
      | some _ => none)
    path .header ms

/-- Adds the table of a header in double brackets. -/
def addToTables (ms : TomlMembers) (path : List String) (key : String)
    (fill : TomlMembers → Option TomlMembers) : Option TomlMembers :=
  changeAt .byHeader
    (fun _ outer =>
      match outer.lookup key with
      | none => do some (outer ++ [(key, .tables [← fill []])])
      | some (.tables items) => do some (outer.set key (.tables (items ++ [← fill []])))
      | some _ => none)
    path .header ms

end TomlMembers

end AlbumCatalog
