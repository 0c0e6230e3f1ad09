import AlbumCatalog.Album.Basic
import AlbumCatalog.Json.Read
import AlbumCatalog.Json.Write

/-!
# Albums as JSON

An album is written as an object that holds all its fields in order. Reading allows any order,
skips unknown members, and takes a missing description, location or list for an empty one.
-/

namespace AlbumCatalog

/-! ## Writing -/

def tagJson (name : String) : Json :=
  .object [("name", .string name)]

def Grant.json (g : Grant) : Json :=
  .object [("owner_id", .string g.owner),
    ("permissions", .array (g.permissions.map fun p => .string p.name))]

def Album.json (a : Album) : Json :=
  .object [
    ("id", .number a.id),
    ("name", .string a.name),
    ("description", .string a.description),
    ("location", .string a.location),
    ("owner", .string a.owner),
    ("created_at", .string (String.ofList a.createdAt.zuluText)),
    ("tags", .array (a.tags.map tagJson)),
    ("user_permissions", .array (a.userGrants.map Grant.json)),
    ("group_permissions", .array (a.groupGrants.map Grant.json))]

/-- The text of an album file. -/
def albumsText (albums : List Album) : String :=
  (Json.array (albums.map Album.json)).pretty

/-! ## Reading -/

def readTag (bound : Nat) : JsonReader String :=
  readRecord bound (requiredItem true readJsonString)
    (fun slot key cs => do
      match key with
      | "name" => fillSlot slot readJsonString cs
      | _ => .ok (slot, ← skipSlot bound cs))
    none demand

def readPermissions (bound : Nat) : JsonReader (List Permission) :=
  readList bound (readNamed Permission.ofName?)

/-- The members of a grant that have been read. -/
structure GrantDraft where
  owner : Option String := none
  permissions : Option (List Permission) := none

def readGrant (bound : Nat) : JsonReader Grant :=
  readRecord bound
    (fun cs => do
      let (owner, cs) ← requiredItem true readJsonString cs
      let (permissions, cs) ← optionalItem [] (readPermissions bound) cs
      .ok (⟨owner, permissions⟩, cs))
    (fun (draft : GrantDraft) key cs => do
      match key with
      | "owner_id" =>
        let (owner, cs) ← fillSlot draft.owner readJsonString cs
        .ok ({ draft with owner }, cs)
      | "permissions" =>
        let (permissions, cs) ← fillSlot draft.permissions (readPermissions bound) cs
        .ok ({ draft with permissions }, cs)
      | _ => .ok (draft, ← skipSlot bound cs))
    {}
    (fun draft => do
      let owner ← demand draft.owner
      .ok ⟨owner, draft.permissions.getD []⟩)

/-- The members of an album that have been read. -/
structure AlbumDraft where
  id : Option { n : Int // IsId n } := none
  name : Option String := none
  description : Option String := none
  location : Option String := none
  owner : Option String := none
  createdAt : Option Instant := none
  tags : Option (List String) := none
  userGrants : Option (List Grant) := none
  groupGrants : Option (List Grant) := none

def readInstant : JsonReader Instant :=
  readParsed fun s => Instant.ofText? s.toList

/-- The fields of an album in order, of which the last three may be missing. -/
def readAlbumFields (bound : Nat) (cs : List Char) : Except JsonFault (Album × List Char) := do
  let (id, cs) ← requiredItem true (readInteger IsId) cs
  let (name, cs) ← requiredItem false readJsonString cs
  let (description, cs) ← optionalItem "" readJsonString cs
  let (location, cs) ← optionalItem "" readJsonString cs
  let (owner, cs) ← requiredItem false readJsonString cs
  let (createdAt, cs) ← requiredItem false readInstant cs
  let (tags, cs) ← optionalItem [] (readList bound (readTag bound)) cs
  let (userGrants, cs) ← optionalItem [] (readList bound (readGrant bound)) cs
  let (groupGrants, cs) ← optionalItem [] (readList bound (readGrant bound)) cs
  .ok (⟨id, name, description, location, owner, createdAt, tags, userGrants, groupGrants⟩, cs)

def readAlbumMember (bound : Nat) (draft : AlbumDraft) (key : String) (cs : List Char) :
    Except JsonFault (AlbumDraft × List Char) := do
  match key with
  | "id" =>
    let (id, cs) ← fillSlot draft.id (readInteger IsId) cs
    .ok ({ draft with id }, cs)
  | "name" =>
    let (name, cs) ← fillSlot draft.name readJsonString cs
    .ok ({ draft with name }, cs)
  | "description" =>
    let (description, cs) ← fillSlot draft.description readJsonString cs
    .ok ({ draft with description }, cs)
  | "location" =>
    let (location, cs) ← fillSlot draft.location readJsonString cs
    .ok ({ draft with location }, cs)
  | "owner" =>
    let (owner, cs) ← fillSlot draft.owner readJsonString cs
    .ok ({ draft with owner }, cs)
  | "created_at" =>
    let (createdAt, cs) ← fillSlot draft.createdAt readInstant cs
    .ok ({ draft with createdAt }, cs)
  | "tags" =>
    let (tags, cs) ← fillSlot draft.tags (readList bound (readTag bound)) cs
    .ok ({ draft with tags }, cs)
  | "user_permissions" =>
    let (userGrants, cs) ← fillSlot draft.userGrants (readList bound (readGrant bound)) cs
    .ok ({ draft with userGrants }, cs)
  | "group_permissions" =>
    let (groupGrants, cs) ← fillSlot draft.groupGrants (readList bound (readGrant bound)) cs
    .ok ({ draft with groupGrants }, cs)
  | _ => .ok (draft, ← skipSlot bound cs)

/-- The album of its members, if none is missing that it must have. -/
def AlbumDraft.finish (draft : AlbumDraft) : Except JsonFault Album := do
  let id ← demand draft.id
  let name ← demand draft.name
  let owner ← demand draft.owner
  let createdAt ← demand draft.createdAt
  .ok ⟨id, name, draft.description.getD "", draft.location.getD "", owner, createdAt,
    draft.tags.getD [], draft.userGrants.getD [], draft.groupGrants.getD []⟩

def readAlbum (bound : Nat) : JsonReader Album :=
  readRecord bound (readAlbumFields bound) (readAlbumMember bound) {} AlbumDraft.finish

/-- The album of a JSON text. -/
def Album.ofJsonText (text : String) : Except JsonFault Album :=
  readDocument readAlbum text

/-- The albums of an album file. -/
def albumsOfText (text : String) : Except JsonFault (List Album) :=
  readDocument (fun bound => readList bound (readAlbum bound)) text

end AlbumCatalog
