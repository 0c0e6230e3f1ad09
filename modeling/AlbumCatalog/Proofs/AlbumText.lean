import AlbumCatalog.Album.Json
import AlbumCatalog.Proofs.CalendarText
import AlbumCatalog.Proofs.JsonRecords

/-!
# Albums read back from their text

Tags, grants and albums are taken in every layout of their JSON values, and so the text of a list
of albums, and the text of one album, give back what was written.
-/

namespace AlbumCatalog

variable (bound : Nat)

/-! ### The parts of an album -/

lemma decodes_tag (name : String) : Decodes bound (readTag bound) (tagJson name) name := by
  refine decodes_record (s := some name) (.cons ?_ (.nil _)) rfl
  intro gap gap' cs rest hgap hgap' hcs hlen hrest
  exact fillSlot_of_gives hgap hgap' (gives_false.mpr (decodes_string bound name cs hcs hlen)) hrest

lemma Permission.ofName?_name (p : Permission) : Permission.ofName? p.name = some p := by
  cases p <;> decide

lemma decodes_permissions (ps : List Permission) :
    Decodes bound (readPermissions bound) (.array (ps.map fun p => .string p.name)) ps :=
  decodes_list (fun p => decodes_named bound p.ofName?_name) ps

lemma decodes_grant (g : Grant) : Decodes bound (readGrant bound) g.json g := by
  refine decodes_record (s := ⟨some g.owner, some g.permissions⟩) ?_ rfl
  refine .cons (fills_slot (·.owner) ({ · with owner := · }) rfl (fun _ _ => rfl)
    (decodes_string bound g.owner)) ?_
  exact .cons (fills_slot (·.permissions) ({ · with permissions := · }) rfl (fun _ _ => rfl)
    (decodes_permissions bound g.permissions)) (.nil _)

lemma decodes_id (id : { n : Int // IsId n }) :
    Decodes bound (readInteger IsId) (.number id) id := by
  have hle : (id : Int).natAbs ≤ 0x8000000000000000 := by
    have := id.property.1
    have := id.property.2
    omega
  exact decodes_integer bound id.property hle

lemma decodes_instant {t : Instant} {time : String} (h : Instant.ofText? time.toList = some t) :
    Decodes bound readInstant (.string time) t :=
  decodes_parsed bound h

/-! ### Albums -/

/-- What has been read of an album before its lists. -/
def Album.plainDraft (a : Album) : AlbumDraft where
  id := some a.id
  name := some a.name
  description := some a.description
  location := some a.location
  owner := some a.owner
  createdAt := some a.createdAt

lemma fillsAll_plain (a : Album) {time : String}
    (htime : Instant.ofText? time.toList = some a.createdAt) :
    FillsAll bound (readAlbumMember bound) {}
      [("id", .number a.id), ("name", .string a.name), ("description", .string a.description),
        ("location", .string a.location), ("owner", .string a.owner), ("created_at", .string time)]
      a.plainDraft := by
  refine .cons (fills_slot (·.id) ({ · with id := · }) rfl (fun _ _ => rfl)
    (decodes_id bound a.id)) ?_
  refine .cons (fills_slot (·.name) ({ · with name := · }) rfl (fun _ _ => rfl)
    (decodes_string bound a.name)) ?_
  refine .cons (fills_slot (·.description) ({ · with description := · }) rfl (fun _ _ => rfl)
    (decodes_string bound a.description)) ?_
  refine .cons (fills_slot (·.location) ({ · with location := · }) rfl (fun _ _ => rfl)
    (decodes_string bound a.location)) ?_
  refine .cons (fills_slot (·.owner) ({ · with owner := · }) rfl (fun _ _ => rfl)
    (decodes_string bound a.owner)) ?_
  exact .cons (fills_slot (·.createdAt) ({ · with createdAt := · }) rfl (fun _ _ => rfl)
    (decodes_instant bound htime)) (.nil _)

lemma fills_userGrants {s : AlbumDraft} (hs : s.userGrants = none) (gs : List Grant) :
    Fills bound (readAlbumMember bound) s ("user_permissions", .array (gs.map Grant.json))
      { s with userGrants := some gs } :=
  fills_slot AlbumDraft.userGrants (fun s gs => { s with userGrants := gs }) hs (fun _ _ => rfl)
    (decodes_list (decodes_grant bound) gs)

lemma fills_groupGrants {s : AlbumDraft} (hs : s.groupGrants = none) (gs : List Grant) :
    Fills bound (readAlbumMember bound) s ("group_permissions", .array (gs.map Grant.json))
      { s with groupGrants := some gs } :=
  fills_slot AlbumDraft.groupGrants (fun s gs => { s with groupGrants := gs }) hs (fun _ _ => rfl)
    (decodes_list (decodes_grant bound) gs)

lemma decodes_album (a : Album) : Decodes bound (readAlbum bound) a.json a := by
  have htime : Instant.ofText? (String.ofList a.createdAt.zuluText).toList = some a.createdAt := by
    rw [String.toList_ofList, Instant.ofText?_zuluText]
  refine decodes_record
    (s := ⟨some a.id, some a.name, some a.description, some a.location, some a.owner,
      some a.createdAt, some a.tags, some a.userGrants, some a.groupGrants⟩)
    ((fillsAll_plain bound a htime).append ?_) rfl
  refine .cons (fills_slot (·.tags) ({ · with tags := · }) rfl (fun _ _ => rfl)
    (decodes_list (decodes_tag bound) a.tags)) ?_
  refine .cons (fills_userGrants bound rfl a.userGrants) ?_
  exact .cons (fills_groupGrants bound rfl a.groupGrants) (.nil _)

/-- A list of albums is read back from any text that lays it out. -/
lemma albumsOfText_of_jsonText {albums : List Album} {text : String} {b cs b' : List Char}
    (htext : text.toList = b ++ (cs ++ b')) (hb : IsJsonBlanks b) (hb' : IsJsonBlanks b')
    (h : JsonText (.array (albums.map Album.json)) cs) : albumsOfText text = .ok albums :=
  readDocument_text htext hb hb' h fun bound => decodes_list (decodes_album bound) albums

lemma albumsOfText_albumsText (albums : List Album) :
    albumsOfText (albumsText albums) = .ok albums := by
  have h := Json.text_write JsonLayout.isBlank_pretty 0 (.array (albums.map Album.json))
  refine albumsOfText_of_jsonText ?_ isJsonBlanks_nil isJsonBlanks_nil h
  rw [albumsText, Json.pretty, String.toList_ofList, List.append_nil, List.nil_append]

lemma Album.ofJsonText_compact (a : Album) : Album.ofJsonText a.json.compact = .ok a := by
  have h := Json.text_write JsonLayout.isBlank_compact 0 a.json
  refine readDocument_text ?_ isJsonBlanks_nil isJsonBlanks_nil h fun bound => decodes_album bound a
  rw [Json.compact, String.toList_ofList, List.append_nil, List.nil_append]

end AlbumCatalog
