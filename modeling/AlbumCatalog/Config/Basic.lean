import AlbumCatalog.Album.Sort
import AlbumCatalog.Config.Error
import AlbumCatalog.Json.Write
import AlbumCatalog.Toml.Read

/-!
# Configurations

A configuration gives defaults for what the arguments of a run leave open. Its file is a TOML text;
keys that mean nothing are passed over, and one wrong value spoils the whole. A section is a table,
or an array of its values in order.
-/

namespace AlbumCatalog

/-- Defaults for queries. -/
structure QueryDefaults where
  sort : Option SortField := none
  reverse : Option Bool := none
  limit : Option Nat := none
  strict : Option Bool := none
  deriving DecidableEq, Repr

structure Config where
  albumsFile : Option Path := none
  color : Option Bool := none
  query : QueryDefaults := {}
  deriving DecidableEq, Repr

/-! ## Reading -/

/-- The value of a key, if it is there. A wrong value is a fault. -/
def readMember? {α : Type} (read? : Toml → Option α) (key : String) (ms : TomlMembers) :
    Option (Option α) :=
  match ms.lookup key with
  | none => some none
  | some v => some <$> read? v

def readBool? : Toml → Option Bool
  | .boolean b => some b
  | _ => none

def readString? : Toml → Option String
  | .string s => some s
  | _ => none

/-- An integer from 0 to a greatest one. -/
def readNat? (most : Nat) : Toml → Option Nat
  | .integer n => if 0 ≤ n ∧ n ≤ most then some n.toNat else none
  | _ => none

def isEmptyGroup : Toml → Bool
  | .array [] => true
  | .table _ [] => true
  | _ => false

/-- A sort field is named by a string, or by the key of an empty table or array: the only key in
braces, or the first key of a table under a header. -/
def readSortField? : Toml → Option SortField
  | .string s => SortField.ofText? s
  | .table form ((key, v) :: ms) =>
    if isEmptyGroup v && (ms.isEmpty || (form ≠ .braces && form ≠ .dottedInBraces)) then
      SortField.ofText? key
    else none
  | _ => none

/-- The greatest integer of the format. -/
def greatestLimit : Nat := 0x7FFFFFFFFFFFFFFF

def QueryDefaults.ofMembers? (ms : TomlMembers) : Option QueryDefaults := do
  some {
    sort := ← readMember? readSortField? "sort" ms
    reverse := ← readMember? readBool? "reverse" ms
    limit := ← readMember? (readNat? greatestLimit) "limit" ms
    strict := ← readMember? readBool? "strict" ms }

/-- The defaults that an array gives. Items after the last default mean nothing. -/
def QueryDefaults.ofItems? : List Toml → Option QueryDefaults
  | sort :: reverse :: limit :: strict :: _ => do
    some {
      sort := some (← readSortField? sort)
      reverse := some (← readBool? reverse)
      limit := some (← readNat? greatestLimit limit)
      strict := some (← readBool? strict) }
  | _ => none

/-- The color of an output section that is an array. -/
def colorOfItems? : List Toml → Option (Option Bool)
  | color :: _ => some <$> readBool? color
  | [] => none

/-- A section, from its members or from its items. A date in its place holds no member. -/
def readSection? {α : Type} (ofMembers? : TomlMembers → Option α)
    (ofItems? : List Toml → Option α) : Toml → Option α
  | .table _ ms => ofMembers? ms
  | .array items => ofItems? items
  | .tables items => ofItems? (items.map (.table .header))
  | .moment => ofMembers? []
  | _ => none

/-- The greatest version number that a file may state. -/
def greatestVersion : Nat := 0xFFFFFFFF

/-- The version that a table states, and its configuration. -/
def configOfMembers? (ms : TomlMembers) : Option (Nat × Config) := do
  let version ← readMember? (readNat? greatestVersion) "version" ms
  let albumsFile ← readMember? readString? "albums_file" ms
  let readColor? := readSection? (readMember? readBool? "color") colorOfItems?
  let color ← readMember? readColor? "output" ms
  let query ← readMember? (readSection? QueryDefaults.ofMembers? QueryDefaults.ofItems?) "query" ms
  some (version.getD configVersion, ⟨albumsFile.map Path.mk, color.join, query.getD {}⟩)

/-- The configuration of a text, unless the text states a newer version. -/
def Config.ofText (text : String) : Except ConfigError Config :=
  match tomlOfText? text >>= configOfMembers? with
  | none => .error .format
  | some (version, config) =>
    if configVersion < version then .error (.newerVersion version) else .ok config

/-! ## Writing -/

/-- Members of an object whose values are there. -/
def presentMembers (members : List (String × Option Json)) : Json :=
  .object (members.filterMap fun (key, v) => v.map (key, ·))

def Config.json (c : Config) : Json :=
  presentMembers [
    ("albums_file", c.albumsFile.map fun p => .string p.text),
    ("output", some (presentMembers [("color", c.color.map .bool)])),
    ("query", some (presentMembers [
      ("limit", c.query.limit.map fun n => .number n),
      ("reverse", c.query.reverse.map .bool),
      ("sort", c.query.sort.map fun f => .string f.text),
      ("strict", c.query.strict.map .bool)])),
    ("version", some (.number configVersion))]

def startingConfigLines : List String := [
  "# aq - album query configuration",
  "",
  "# Config schema version (do not modify)",
  "version = 1",
  "",
  "# Album file to query (can also use --albums or the AQ_ALBUMS env var)",
  "# albums_file = \"/path/to/albums.json\"",
  "",
  "# Output preferences",
  "[output]",
  "# color = true              # Enable colors (respects NO_COLOR env)",
  "",
  "# Defaults for `aq list`",
  "[query]",
  "# sort = \"name\"             # \"id\", \"name\", \"owner\", \"date\", \"location\"",
  "# reverse = false",
  "# limit = 0                 # 0 means no limit",
  "# strict = false            # fail instead of skipping albums the filter cannot evaluate"]

/-- The file that is written for a start. It sets nothing but the version. -/
def startingConfigText : String :=
  String.ofList (startingConfigLines.flatMap fun line => line.toList ++ ['\n'])

end AlbumCatalog
