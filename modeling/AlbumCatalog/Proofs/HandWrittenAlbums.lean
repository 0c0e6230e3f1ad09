import AlbumCatalog.Proofs.AlbumText
import AlbumCatalog.Proofs.HandWritten
import AlbumCatalog.Proofs.Saving

/-!
# Album files that are written by hand

The members of albums, tags and grants are the slots of their records. What a store loads from a
file that is written by hand is the list that it would have saved, or the fault for the data.
-/

namespace AlbumCatalog

/-! ### The texts of albums -/

def tagSlots (name : String) : List Slot :=
  [⟨"name", plainText (.string name), true, False⟩]

def TagText (name : String) : Bool → List Char → Prop :=
  RecordText (tagSlots name)

def grantSlots (g : Grant) : List Slot :=
  [⟨"owner_id", plainText (.string g.owner), true, False⟩,
    ⟨"permissions", plainText (.array (g.permissions.map fun p => .string p.name)), false,
      g.permissions = []⟩]

def GrantText (g : Grant) : Bool → List Char → Prop :=
  RecordText (grantSlots g)

def albumSlots (a : Album) : List Slot :=
  [⟨"id", plainText (.number a.id), true, False⟩,
    ⟨"name", plainText (.string a.name), true, False⟩,
    ⟨"description", plainText (.string a.description), false, a.description = ""⟩,
    ⟨"location", plainText (.string a.location), false, a.location = ""⟩,
    ⟨"owner", plainText (.string a.owner), true, False⟩,
    ⟨"created_at", plainText (.string (String.ofList a.createdAt.zuluText)), true, False⟩,
    ⟨"tags", ListText TagText a.tags, false, a.tags = []⟩,
    ⟨"user_permissions", ListText GrantText a.userGrants, false, a.userGrants = []⟩,
    ⟨"group_permissions", ListText GrantText a.groupGrants, false, a.groupGrants = []⟩]

def AlbumText (a : Album) : Bool → List Char → Prop :=
  RecordText (albumSlots a)

/-- The text is an album file that is written by hand. -/
inductive HandWritten (albums : List Album) (faulty : Bool) (text : String) : Prop
  | mk {b cs b' : List Char} (htext : text.toList = b ++ (cs ++ b')) (hb : IsJsonBlanks b)
      (hb' : IsJsonBlanks b') (hcs : ListText AlbumText albums faulty cs)

/-! ### What the writer writes -/

lemma tagText_of_jsonText {name : String} {cs : List Char} (h : JsonText (tagJson name) cs) :
    TagText name false cs := by
  refine recordText_of_jsonText ?_ (by simp [tagSlots]) h
  simp [tagSlots, plainText]

lemma grantText_of_jsonText {g : Grant} {cs : List Char} (h : JsonText g.json cs) :
    GrantText g false cs := by
  refine recordText_of_jsonText ?_ (by simp [grantSlots]) h
  simp [grantSlots, plainText]

lemma albumText_of_jsonText {a : Album} {cs : List Char} (h : JsonText a.json cs) :
    AlbumText a false cs := by
  refine recordText_of_jsonText ?_ (by simp [albumSlots]) h
  have htags : ∀ cs, JsonText (.array (a.tags.map tagJson)) cs →
      ListText TagText a.tags false cs :=
    fun _ => listText_of_jsonText fun _ _ => tagText_of_jsonText
  have hgrants : ∀ (gs : List Grant) cs, JsonText (.array (gs.map Grant.json)) cs →
      ListText GrantText gs false cs :=
    fun _ _ => listText_of_jsonText fun _ _ => grantText_of_jsonText
  simpa [albumSlots, plainText] using ⟨htags, hgrants a.userGrants, hgrants a.groupGrants⟩

/-- The written form of a list is one of those that are written by hand. -/
lemma handWritten_albumsText (albums : List Album) :
    HandWritten albums false (albumsText albums) := by
  have h := Json.text_write JsonLayout.isBlank_pretty 0 (.array (albums.map Album.json))
  refine .mk ?_ isJsonBlanks_nil isJsonBlanks_nil
    (listText_of_jsonText (fun _ _ => albumText_of_jsonText) h)
  rw [albumsText, Json.pretty, String.toList_ofList, List.append_nil, List.nil_append]

/-! ### Reading -/

/-- What has been read of a grant when the names have been seen. -/
def Grant.seenDraft (g : Grant) (seen : List String) : GrantDraft where
  owner := keep seen "owner_id" g.owner
  permissions := keep seen "permissions" g.permissions

/-- What has been read of an album when the names have been seen. -/
def Album.seenDraft (a : Album) (seen : List String) : AlbumDraft where
  id := keep seen "id" a.id
  name := keep seen "name" a.name
  description := keep seen "description" a.description
  location := keep seen "location" a.location
  owner := keep seen "owner" a.owner
  createdAt := keep seen "created_at" a.createdAt
  tags := keep seen "tags" a.tags
  userGrants := keep seen "user_permissions" a.userGrants
  groupGrants := keep seen "group_permissions" a.groupGrants

/-- An album cannot do without four of its members. -/
lemma AlbumDraft.finish_of_none {d : AlbumDraft}
    (h : d.id = none ∨ d.name = none ∨ d.owner = none ∨ d.createdAt = none) :
    d.finish = .error .data := by
  obtain ⟨id, name, description, location, owner, createdAt, tags, users, groups⟩ := d
  cases id with
  | none => rfl
  | some id =>
    cases name with
    | none => rfl
    | some name =>
      cases owner with
      | none => rfl
      | some owner =>
        cases createdAt with
        | none => rfl
        | some createdAt => simp at h

variable {bound : Nat}

lemma gives_tag {name : String} {faulty : Bool} {cs : List Char} (hcs : TagText name faulty cs)
    (hlen : cs.length ≤ bound) : Gives (readTag bound) cs name faulty := by
  refine ReadsBySlots.gives (s := fun seen => keep seen "name" name) ⟨?_, ?_, ?_, ?_⟩ rfl hcs hlen
  · intro slot hslot
    cases List.mem_singleton.mp hslot
    exact .mk id (fun _ x => x) (fun s cs => (bind_pure (fillSlot s readJsonString cs)).symm)
      (fun _ => rfl) (fun seen => keep_cons_self.symm)
      fun f cs => gives_plain (decodes_string bound name)
  · intro key hkey s cs
    have hname := hkey _ List.mem_cons_self
    split
    · exact absurd rfl hname
    · rfl
  · intro seen h
    rw [keep_of_mem ((h _ List.mem_cons_self).resolve_right id)]
    rfl
  · intro slot hslot _ seen h
    cases List.mem_singleton.mp hslot
    rw [keep_of_not_mem h]
    rfl

lemma gives_grant {g : Grant} {faulty : Bool} {cs : List Char} (hcs : GrantText g faulty cs)
    (hlen : cs.length ≤ bound) : Gives (readGrant bound) cs g faulty := by
  refine ReadsBySlots.gives (s := g.seenDraft) ⟨?_, ?_, ?_, ?_⟩ rfl hcs hlen
  · simp only [grantSlots, List.forall_mem_cons]
    refine ⟨?_, ?_, by simp⟩
    · exact .mk GrantDraft.owner (fun s x => { s with owner := x }) (fun _ _ => rfl) (fun _ => rfl)
        (fun seen => by simp [Grant.seenDraft])
        fun f cs => gives_plain (decodes_string bound g.owner)
    · exact .mk GrantDraft.permissions (fun s x => { s with permissions := x }) (fun _ _ => rfl)
        (fun _ => rfl) (fun seen => by simp [Grant.seenDraft])
        fun f cs => gives_plain (decodes_permissions bound g.permissions)
  · intro key hkey s cs
    simp only [grantSlots, List.forall_mem_cons] at hkey
    obtain ⟨howner, hpermissions, -⟩ := hkey
    split
    · exact absurd rfl howner
    · exact absurd rfl hpermissions
    · rfl
  · intro seen h
    simp only [grantSlots, List.forall_mem_cons, or_false] at h
    obtain ⟨howner, hpermissions, -⟩ := h
    simp only [Grant.seenDraft, keep_of_mem howner, demand, bind, Except.bind,
      getD_keep hpermissions]
  · simp only [grantSlots, List.forall_mem_cons]
    refine ⟨fun _ seen h => ?_, fun h => absurd h (by decide), by simp⟩
    simp only [Grant.seenDraft, keep_of_not_mem h]
    rfl

lemma gives_tags {tags : List String} {faulty : Bool} {cs : List Char}
    (hcs : ListText TagText tags faulty cs) (hlen : cs.length ≤ bound) :
    Gives (readList bound (readTag bound)) cs tags faulty :=
  gives_listText (fun _ _ _ hp hlen => ⟨RecordText.isItem hp, gives_tag hp hlen⟩) hcs hlen

lemma gives_grants {gs : List Grant} {faulty : Bool} {cs : List Char}
    (hcs : ListText GrantText gs faulty cs) (hlen : cs.length ≤ bound) :
    Gives (readList bound (readGrant bound)) cs gs faulty :=
  gives_listText (fun _ _ _ hp hlen => ⟨RecordText.isItem hp, gives_grant hp hlen⟩) hcs hlen

lemma readsSlot_album (a : Album) :
    ∀ slot ∈ albumSlots a, ReadsSlot bound (readAlbumMember bound) a.seenDraft slot := by
  have htime : Instant.ofText? (String.ofList a.createdAt.zuluText).toList = some a.createdAt := by
    rw [String.toList_ofList, Instant.ofText?_zuluText]
  simp only [albumSlots, List.forall_mem_cons]
  refine ⟨?_, ?_, ?_, ?_, ?_, ?_, ?_, ?_, ?_, by simp⟩
  · exact .mk AlbumDraft.id (fun s x => { s with id := x }) (fun _ _ => rfl) (fun _ => rfl)
      (fun seen => by simp [Album.seenDraft]) fun f cs => gives_plain (decodes_id bound a.id)
  · exact .mk AlbumDraft.name (fun s x => { s with name := x }) (fun _ _ => rfl) (fun _ => rfl)
      (fun seen => by simp [Album.seenDraft]) fun f cs => gives_plain (decodes_string bound a.name)
  · exact .mk AlbumDraft.description (fun s x => { s with description := x }) (fun _ _ => rfl)
      (fun _ => rfl) (fun seen => by simp [Album.seenDraft])
      fun f cs => gives_plain (decodes_string bound a.description)
  · exact .mk AlbumDraft.location (fun s x => { s with location := x }) (fun _ _ => rfl)
      (fun _ => rfl) (fun seen => by simp [Album.seenDraft])
      fun f cs => gives_plain (decodes_string bound a.location)
  · exact .mk AlbumDraft.owner (fun s x => { s with owner := x }) (fun _ _ => rfl) (fun _ => rfl)
      (fun seen => by simp [Album.seenDraft]) fun f cs => gives_plain (decodes_string bound a.owner)
  · exact .mk AlbumDraft.createdAt (fun s x => { s with createdAt := x }) (fun _ _ => rfl)
      (fun _ => rfl) (fun seen => by simp [Album.seenDraft])
      fun f cs => gives_plain (decodes_instant bound htime)
  · exact .mk AlbumDraft.tags (fun s x => { s with tags := x }) (fun _ _ => rfl) (fun _ => rfl)
      (fun seen => by simp [Album.seenDraft]) fun f cs => gives_tags
  · exact .mk AlbumDraft.userGrants (fun s x => { s with userGrants := x }) (fun _ _ => rfl)
      (fun _ => rfl) (fun seen => by simp [Album.seenDraft]) fun f cs => gives_grants
  · exact .mk AlbumDraft.groupGrants (fun s x => { s with groupGrants := x }) (fun _ _ => rfl)
      (fun _ => rfl) (fun seen => by simp [Album.seenDraft]) fun f cs => gives_grants

lemma readAlbumMember_stranger {a : Album} {key : String}
    (hkey : ∀ slot ∈ albumSlots a, slot.name ≠ key) (s : AlbumDraft) (cs : List Char) :
    readAlbumMember bound s key cs = (do .ok (s, ← skipSlot bound cs)) := by
  simp only [albumSlots, List.forall_mem_cons] at hkey
  obtain ⟨hid, hname, hdescription, hlocation, howner, htime, htags, husers, hgroups, -⟩ := hkey
  unfold readAlbumMember
  split
  · exact absurd rfl hid
  · exact absurd rfl hname
  · exact absurd rfl hdescription
  · exact absurd rfl hlocation
  · exact absurd rfl howner
  · exact absurd rfl htime
  · exact absurd rfl htags
  · exact absurd rfl husers
  · exact absurd rfl hgroups
  · rfl

lemma gives_album {a : Album} {faulty : Bool} {cs : List Char} (hcs : AlbumText a faulty cs)
    (hlen : cs.length ≤ bound) : Gives (readAlbum bound) cs a faulty := by
  refine ReadsBySlots.gives (s := a.seenDraft)
    ⟨readsSlot_album a, fun key => readAlbumMember_stranger, ?_, ?_⟩ rfl hcs hlen
  · intro seen h
    simp only [albumSlots, List.forall_mem_cons, or_false] at h
    obtain ⟨hid, hname, hdescription, hlocation, howner, htime, htags, husers, hgroups, -⟩ := h
    simp only [AlbumDraft.finish, Album.seenDraft, keep_of_mem hid, keep_of_mem hname,
      keep_of_mem howner, keep_of_mem htime, demand, bind, Except.bind, getD_keep hdescription,
      getD_keep hlocation, getD_keep htags, getD_keep husers, getD_keep hgroups]
  · intro slot hslot hrequired seen h
    apply AlbumDraft.finish_of_none
    simp only [albumSlots, List.mem_cons, List.not_mem_nil, or_false] at hslot
    rcases hslot with rfl | rfl | rfl | rfl | rfl | rfl | rfl | rfl | rfl
    · exact .inl (keep_of_not_mem h)
    · exact .inr (.inl (keep_of_not_mem h))
    · cases hrequired
    · cases hrequired
    · exact .inr (.inr (.inl (keep_of_not_mem h)))
    · exact .inr (.inr (.inr (keep_of_not_mem h)))
    all_goals cases hrequired

/-- The albums of a file that is written by hand, or its fault. -/
lemma HandWritten.albumsOfText {albums : List Album} {faulty : Bool} {text : String}
    (h : HandWritten albums faulty text) :
    albumsOfText text = if faulty then .error .data else .ok albums := by
  obtain ⟨htext, hb, hb', hcs⟩ := h
  refine readDocument_gives htext hb hb' fun bound hlen => gives_listText ?_ hcs hlen
  exact fun a f p hp hlen => ⟨RecordText.isItem hp, gives_album hp hlen⟩

/-- A file that is written by hand is loaded as the list whose written form it varies. If some
record in it lacks a member that it must have, or holds one twice, the load fails for the data. -/
theorem load_of_hand_written {s : AlbumStore} {albums : List Album} {faulty : Bool} {text : String}
    {t t' : FileTree} (hwritten : t.readText s.path = .ok (albumsText albums))
    (hread : t'.readText s.path = .ok text) (htext : HandWritten albums faulty text) :
    t.run s.load = (.ok albums, t) ∧
      t'.run s.load = (if faulty then .error (.format .data) else .ok albums, t') := by
  rw [s.run_load, s.run_load, hwritten, hread]
  simp only [(handWritten_albumsText albums).albumsOfText, htext.albumsOfText]
  cases faulty <;> exact ⟨rfl, rfl⟩

/-- An album whose members are out of order, with an unknown one between them; then with its number
given a second time. -/
theorem shuffled_album_is_loaded :
    let s : AlbumStore := ⟨⟨"a.json"⟩⟩
    let a : Album := ⟨⟨-1, by decide⟩, "n", "", "", "o",
      ⟨⟨2016, 12, 31, by decide⟩, 0, 0, by decide⟩, [], [], []⟩
    let tree (text : String) : FileTree := ⟨[(["a.json"], .file text.toUTF8)], []⟩
    let shuffled := " [\x7b\"owner\" :\"o\",\"x\":[-1.5e3],\"id\":-1 , " ++
      "\"created_at\":\"2016-12-31T00:00:00Z\",\"name\":\"n\"\x7d]"
    let twice := "[\x7b\"owner\":\"o\",\"id\":-1,\"id\":null," ++
      "\"created_at\":\"2016-12-31T00:00:00Z\",\"name\":\"n\"\x7d]"
    (HandWritten [a] false shuffled ∧
      (tree shuffled).run s.load = (.ok [a], tree shuffled)) ∧
    HandWritten [a] true twice ∧
      (tree twice).run s.load = (.error (.format .data), tree twice) := by
  intro s a tree shuffled twice
  have hnil := isJsonBlanks_nil
  have hblank : IsJsonBlanks [' '] := by simp [IsJsonBlanks, isJsonBlank]
  have howner : plainText (.string a.owner) false (jsonString "o") := ⟨rfl, .string "o"⟩
  have hid : plainText (.number a.id) false (decimalInt (-1)) := ⟨rfl, .number (-1)⟩
  have htime : plainText (.string (String.ofList a.createdAt.zuluText)) false _ := ⟨rfl, .string _⟩
  have hname : plainText (.string a.name) false (jsonString "n") := ⟨rfl, .string "n"⟩
  have hnumber := MagnitudeText.mk (.inr ⟨⟨by simp, by simp⟩, by simp⟩ : IsWhole ['1'])
    (.inr ⟨['5'], rfl, by simp, by simp⟩)
    (.inr ⟨'e', [], ['3'], rfl, by simp, by simp, by simp, by simp⟩)
  have hx := ValueText.list (List.forall_mem_singleton.mpr (.negative hnumber))
    (.cons hnil (.nil hnil))
  have hslot : ∀ i (h : i < 9), (albumSlots a)[i] ∈ albumSlots a := fun i h => List.getElem_mem h
  have hmembers : Members (albumSlots a) [] false _ :=
    .own (hslot 4 (by decide)) (by simp) (.mk (quotes_jsonString "owner") hblank hnil howner) <|
      .stranger (by simp [albumSlots]) (.mk (quotes_jsonString "x") hnil hnil hx) <|
      .own (hslot 0 (by decide)) (by simp [albumSlots])
        (.mk (quotes_jsonString "id") hnil hnil hid) <|
      .own (hslot 5 (by decide)) (by simp [albumSlots])
        (.mk (quotes_jsonString "created_at") hnil hnil htime) <|
      .own (hslot 1 (by decide)) (by simp [albumSlots])
        (.mk (quotes_jsonString "name") hnil hnil hname) <|
      .complete (by simp [albumSlots, a])
  have hshuffled : HandWritten [a] false shuffled := by
    have hrecord : AlbumText a false _ := .mk hmembers (.cons hnil (.cons hnil hnil (.cons hnil hnil
      (.cons hblank hblank (.cons hnil hnil (.nil hnil))))))
    refine .mk ?_ hblank hnil (.mk (.cons hrecord .nil) (.cons hnil (.nil hnil)))
    decide +kernel
  have htwice : HandWritten [a] true twice := by
    have hagain : Members (albumSlots a) [] true _ :=
      .own (hslot 4 (by decide)) (by simp) (.mk (quotes_jsonString "owner") hnil hnil howner) <|
        .own (hslot 0 (by decide)) (by simp [albumSlots])
          (.mk (quotes_jsonString "id") hnil hnil hid) <|
        .repeated (hslot 0 (by decide)) (by simp)
          (.mk (quotes_jsonString "id") hnil hnil (.word (by simp : ['n', 'u', 'l', 'l'] ∈ _))) <|
        .own (hslot 5 (by decide)) (by simp [albumSlots])
          (.mk (quotes_jsonString "created_at") hnil hnil htime) <|
        .own (hslot 1 (by decide)) (by simp [albumSlots])
          (.mk (quotes_jsonString "name") hnil hnil hname) <|
        .complete (by simp [albumSlots, a])
    have hrecord : AlbumText a true _ := .mk hagain (.cons hnil (.cons hnil hnil (.cons hnil hnil
      (.cons hnil hnil (.cons hnil hnil (.nil hnil))))))
    refine .mk ?_ hnil hnil (.mk (.cons hrecord .nil) (.cons hnil (.nil hnil)))
    decide +kernel
  have hwritten : (tree (albumsText [a])).readText s.path = .ok (albumsText [a]) :=
    FileTree.readText_single _
  exact ⟨⟨hshuffled, (load_of_hand_written hwritten (FileTree.readText_single _) hshuffled).2⟩,
    htwice, (load_of_hand_written hwritten (FileTree.readText_single _) htwice).2⟩

end AlbumCatalog
