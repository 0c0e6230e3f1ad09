import AlbumCatalog.Proofs.AlbumText
import AlbumCatalog.Proofs.SessionOutput

/-!
# The JSON output is read back

The readers below look up the members of the output by their names, as a program would that is
given the output. What they find in the output of a listing, of the tokens of a filter or of a check
is the result of the command, whatever characters its texts hold.
-/

namespace AlbumCatalog

/-! ### Readers of the output -/

/-- A number without a sign. -/
def readCount (cs : List Char) : Except JsonFault (Nat × List Char) :=
  let cs := skipJsonBlanks cs
  match cs.takeWhile Char.isDigit with
  | [] => .error (unfit cs)
  | digits => .ok (decimalValue digits, cs.dropWhile Char.isDigit)

/-- A record that is written as an object only. -/
def readObject {α σ : Type} (bound : Nat) (member : σ → String → JsonReader σ) (start : σ)
    (finish : σ → Except JsonFault α) : JsonReader α :=
  readRecord bound (fun _ => .error .data) member start finish

/-- A member of a listed album. Its tags are names, and everything else is as in an album file. -/
def readListedMember (bound : Nat) (draft : AlbumDraft) (key : String) (cs : List Char) :
    Except JsonFault (AlbumDraft × List Char) := do
  if key = "tags" then
    let (tags, cs) ← fillSlot draft.tags (readList bound readJsonString) cs
    .ok ({ draft with tags }, cs)
  else readAlbumMember bound draft key cs

def readListedAlbum (bound : Nat) : JsonReader Album :=
  readObject bound (readListedMember bound) {} AlbumDraft.finish

/-- What is shown of a page. -/
structure ListedPage where
  albums : List Album
  total : Nat
  skipped : Nat

structure PageDraft where
  albums : Option (List Album) := none
  total : Option Nat := none
  skipped : Option Nat := none

def readPage (bound : Nat) : JsonReader ListedPage :=
  readObject bound
    (fun (draft : PageDraft) key cs => do
      match key with
      | "albums" =>
        let (albums, cs) ← fillSlot draft.albums (readList bound (readListedAlbum bound)) cs
        .ok ({ draft with albums }, cs)
      | "total" =>
        let (total, cs) ← fillSlot draft.total readCount cs
        .ok ({ draft with total }, cs)
      | "skipped" =>
        let (skipped, cs) ← fillSlot draft.skipped readCount cs
        .ok ({ draft with skipped }, cs)
      | _ => .ok (draft, ← skipSlot bound cs))
    {}
    (fun draft => do
      .ok ⟨← demand draft.albums, ← demand draft.total, ← demand draft.skipped⟩)

structure TokenDraft where
  position : Option Nat := none
  kind : Option TokenKind := none
  literal : Option String := none

def readToken (bound : Nat) : JsonReader Token :=
  readObject bound
    (fun (draft : TokenDraft) key cs => do
      match key with
      | "position" =>
        let (position, cs) ← fillSlot draft.position readCount cs
        .ok ({ draft with position }, cs)
      | "token" =>
        let (kind, cs) ← fillSlot draft.kind (readParsed TokenKind.ofName?) cs
        .ok ({ draft with kind }, cs)
      | "literal" =>
        let (literal, cs) ← fillSlot draft.literal readJsonString cs
        .ok ({ draft with literal }, cs)
      | _ => .ok (draft, ← skipSlot bound cs))
    {}
    (fun draft => do
      .ok ⟨← demand draft.position, ← demand draft.kind, ← demand draft.literal⟩)

def readTokens (bound : Nat) : JsonReader (List Token) :=
  readList bound (readToken bound)

structure CheckDraft where
  expression : Option String := none
  canonical : Option String := none

/-- An expression and its canonical form. -/
def readCheck (bound : Nat) : JsonReader (String × String) :=
  readObject bound
    (fun (draft : CheckDraft) key cs => do
      match key with
      | "expression" =>
        let (expression, cs) ← fillSlot draft.expression readJsonString cs
        .ok ({ draft with expression }, cs)
      | "canonical" =>
        let (canonical, cs) ← fillSlot draft.canonical readJsonString cs
        .ok ({ draft with canonical }, cs)
      | _ => .ok (draft, ← skipSlot bound cs))
    {}
    (fun draft => do
      .ok (← demand draft.expression, ← demand draft.canonical))

section Records

variable (bound : Nat)

lemma decodes_object {α σ : Type} {member : σ → String → JsonReader σ} {start s : σ}
    {finish : σ → Except JsonFault α} {a : α} {ms : List (String × Json)}
    (hfills : FillsAll bound member start ms s) (hfinish : finish s = .ok a) :
    Decodes bound (readObject bound member start finish) (.object ms) a :=
  decodes_record hfills hfinish

lemma decodes_count (n : Nat) : Decodes bound readCount (.number n) n := by
  intro cs hcs _ b rest hb hrest
  cases hcs
  obtain ⟨c, ds, hds⟩ := List.exists_cons_of_ne_nil (decimal_ne_nil n)
  have hdigit : c.isDigit := isDigit_of_mem_decimal n c (by rw [hds]; exact List.mem_cons_self)
  have hsplit := takeWhile_isDigit (isDigit_of_mem_decimal n) fun d hd => (hrest d hd).1
  have hskip : skipJsonBlanks (b ++ (decimal n ++ rest)) = decimal n ++ rest := by
    rw [skipJsonBlanks_append hb, hds, List.cons_append]
    exact skipJsonBlanks_cons (not_isJsonBlank_of_isDigit hdigit) _
  have hnonneg : decimalInt n = decimal n := by simp [decimalInt]
  rw [hnonneg]
  simp only [readCount, hskip, hsplit]
  rw [hds]
  change Except.ok (decimalValue (c :: ds), rest) = _
  rw [← hds, decimalValue_decimal]

/-! ### Tokens and checks -/

lemma TokenKind.ofName?_name (k : TokenKind) : TokenKind.ofName? k.name = some k := by
  cases k <;> decide

lemma decodes_token (t : Token) : Decodes bound (readToken bound) t.json t := by
  refine decodes_object bound (s := ⟨some t.position, some t.kind, some t.literal⟩) ?_ rfl
  refine .cons (fills_slot (·.position) ({ · with position := · }) rfl (fun _ _ => rfl)
    (decodes_count bound t.position)) ?_
  refine .cons (fills_slot (·.kind) ({ · with kind := · }) rfl (fun _ _ => rfl)
    (decodes_parsed bound t.kind.ofName?_name)) ?_
  exact .cons (fills_slot (·.literal) ({ · with literal := · }) rfl (fun _ _ => rfl)
    (decodes_string bound t.literal)) (.nil _)

lemma decodes_check (expression : String) (f : Filter) :
    Decodes bound (readCheck bound) (f.json expression) (expression, f.canonical) := by
  refine decodes_object bound (s := ⟨some expression, some f.canonical⟩) ?_ rfl
  refine .cons (fills_slot (·.expression) ({ · with expression := · }) rfl (fun _ _ => rfl)
    (decodes_string bound expression)) ?_
  exact .cons (fills_slot (·.canonical) ({ · with canonical := · }) rfl (fun _ _ => rfl)
    (decodes_string bound f.canonical)) (.nil _)

/-! ### Listings -/

lemma readListedMember_of_ne {key : String} (h : key ≠ "tags") (s : AlbumDraft) (cs : List Char) :
    readListedMember bound s key cs = readAlbumMember bound s key cs :=
  if_neg h

/-- Members other than the tags fill the same slots as in an album file. -/
lemma FillsAll.listed {bound : Nat} {s s' : AlbumDraft} {ms : List (String × Json)}
    (h : FillsAll bound (readAlbumMember bound) s ms s') (hms : ∀ m ∈ ms, m.1 ≠ "tags") :
    FillsAll bound (readListedMember bound) s ms s' := by
  induction h with
  | nil s => exact .nil s
  | cons hfill _ ih =>
    refine .cons ?_ (ih fun m hm => hms m (List.mem_cons_of_mem _ hm))
    intro gap gap' cs rest hgap hgap' hcs hlen hrest
    rw [readListedMember_of_ne bound (hms _ List.mem_cons_self)]
    exact hfill gap gap' cs rest hgap hgap' hcs hlen hrest

lemma fills_tags {s : AlbumDraft} (hs : s.tags = none) (tags : List String) :
    Fills bound (readListedMember bound) s ("tags", .array (tags.map Json.string))
      { s with tags := some tags } :=
  fills_slot AlbumDraft.tags (fun s tags => { s with tags }) hs (fun _ _ => rfl)
    (decodes_list (decodes_string bound) tags)

/-- A list of grants that is left out is an empty one. -/
lemma fillsAll_grants {s : AlbumDraft} {key : String} {gs : List Grant}
    (put : Option (List Grant) → AlbumDraft) (hnone : put none = s) (hkey : key ≠ "tags")
    (h : Fills bound (readAlbumMember bound) s (key, .array (gs.map Grant.json)) (put (some gs))) :
    ∃ slot, slot.getD [] = gs ∧
      FillsAll bound (readListedMember bound) s (grantsMember key gs) (put slot) := by
  cases gs with
  | nil => exact ⟨none, rfl, hnone ▸ .nil _⟩
  | cons g gs =>
    refine ⟨some (g :: gs), rfl, (FillsAll.cons h (.nil _)).listed fun m hm => ?_⟩
    rwa [List.mem_singleton.mp hm]

lemma decodes_listedAlbum (a : Album) :
    Decodes bound (readListedAlbum bound) a.listedJson a := by
  have htime :
      Instant.ofText? (String.ofList a.createdAt.offsetText).toList = some a.createdAt := by
    rw [String.toList_ofList, Instant.ofText?_offsetText]
  have hplain := (fillsAll_plain bound a htime).listed (by simp)
  have htags := fills_tags bound (s := a.plainDraft) rfl a.tags
  obtain ⟨users, husers, huser⟩ := fillsAll_grants bound
    (fun slot => { a.plainDraft with tags := some a.tags, userGrants := slot }) rfl
    (by decide) (fills_userGrants bound rfl a.userGrants)
  obtain ⟨groups, hgroups, hgroup⟩ := fillsAll_grants bound
    (fun slot => { a.plainDraft with
      tags := some a.tags, userGrants := users, groupGrants := slot }) rfl
    (by decide) (fills_groupGrants bound rfl a.groupGrants)
  refine decodes_object bound
    (((hplain.append (.cons htags (.nil _))).append huser).append hgroup) ?_
  change Except.ok { a with userGrants := users.getD [], groupGrants := groups.getD [] } = _
  rw [husers, hgroups]

lemma decodes_page (p : Page) :
    Decodes bound (readPage bound) p.json ⟨p.albums, p.total, p.skipped⟩ := by
  refine decodes_object bound (s := ⟨some p.albums, some p.total, some p.skipped⟩) ?_ rfl
  refine .cons (fills_slot (·.albums) ({ · with albums := · }) rfl (fun _ _ => rfl)
    (decodes_list (decodes_listedAlbum bound) p.albums)) ?_
  refine .cons (fills_slot (·.total) ({ · with total := · }) rfl (fun _ _ => rfl)
    (decodes_count bound p.total)) ?_
  exact .cons (fills_slot (·.skipped) ({ · with skipped := · }) rfl (fun _ _ => rfl)
    (decodes_count bound p.skipped)) (.nil _)

end Records

/-! ### Outputs -/

/-- The output is one JSON document and a newline, and the document is read as the value. -/
def Documents {α : Type} (output : String) (value : Nat → JsonReader α) (a : α) : Prop :=
  ∃ text v, output = text ++ "\n" ∧ JsonText v text.toList ∧ readDocument value text = .ok a

lemma documents_pretty {α : Type} {value : Nat → JsonReader α} {v : Json} {a : α}
    (h : ∀ bound, Decodes bound (value bound) v a) : Documents (v.pretty ++ "\n") value a := by
  have htext : JsonText v v.pretty.toList := by
    rw [Json.pretty, String.toList_ofList]
    exact Json.text_write JsonLayout.isBlank_pretty 0 v
  refine ⟨v.pretty, v, rfl, htext, ?_⟩
  exact readDocument_text (by simp) isJsonBlanks_nil isJsonBlanks_nil htext h

lemma CommandError.exitStatus_ne_zero (e : CommandError) : e.exitStatus ≠ 0 := by
  cases e <;> simp [exitStatus]

/-- A session that answers and ends without a failure has written the text of its result. -/
lemma output_of_answers {γ : Type} {env : Environment} {arguments : List String} {i : Invocation}
    {t : FileTree} {r : Except CommandError γ} {text : γ → String}
    (hi : Invocation.ofArguments env.albums arguments = .ok i)
    (h : (i.session env).Answers t r text)
    (hok : (t.runProgram env arguments).1.exitStatus = 0) :
    ∃ c, r = .ok c ∧ (t.runProgram env arguments).1.output = text c := by
  obtain ⟨notes, hsuccess, hfailure⟩ := runProgram_of_answers hi h
  cases r with
  | error e =>
    rw [hfailure e rfl] at hok
    exact absurd hok e.exitStatus_ne_zero
  | ok c => exact ⟨c, rfl, by rw [hsuccess c rfl]⟩

lemma Presentation.documents_shown {p : Presentation} (hp : p.json) {json : Json} {α : Type}
    {value : Nat → JsonReader α} {a : α} (h : ∀ bound, Decodes bound (value bound) json a)
    (text : String) : Documents (p.shown json text) value a := by
  rw [shown, if_pos hp]
  exact documents_pretty h

/-- If JSON is asked for, a command that succeeds writes one document, from which its result is read
back: the page of a listing, the tokens of a line, or an expression with its canonical form. -/
theorem json_output_is_read_back {env : Environment} {arguments : List String} {i : Invocation}
    (hi : Invocation.ofArguments env.albums arguments = .ok i) (hjson : i.flags.json)
    (t : FileTree) (hok : (t.runProgram env arguments).1.exitStatus = 0) :
    let output := (t.runProgram env arguments).1.output
    (∀ o, i.command = some (.list o) → ∃ config page, t.listing env i.flags o = .ok (config, page) ∧
      Documents output readPage ⟨page.albums, page.total, page.skipped⟩) ∧
    (∀ e, i.command = some (.tokens e) → Documents output readTokens (tokenize e).toList) ∧
    (∀ e, i.command = some (.check e) → ∃ f, Filter.parse e = .ok f ∧
      Documents output readCheck (e, f.canonical)) := by
  obtain ⟨flags, command⟩ := i
  refine ⟨?_, ?_, ?_⟩
  · rintro o rfl
    obtain ⟨⟨config, page⟩, hlisting, houtput⟩ :=
      output_of_answers hi (answers_list env flags o t) hok
    refine ⟨config, page, hlisting, ?_⟩
    rw [houtput]
    exact Presentation.documents_shown hjson (fun bound => decodes_page bound page) _
  · rintro e rfl
    obtain ⟨config, -, houtput⟩ := output_of_answers hi (answers_tokens env flags e t) hok
    rw [houtput]
    exact Presentation.documents_shown hjson
      (fun bound => decodes_list (decodes_token bound) (tokenize e).toList) _
  · rintro e rfl
    obtain ⟨⟨config, f⟩, hcheck, houtput⟩ := output_of_answers hi (answers_check env flags e t) hok
    have hparse : Filter.parse e = .ok f := by
      cases hconfig : t.configuration env with
      | error e' => rw [hconfig] at hcheck; cases hcheck
      | ok config' =>
        cases hf : Filter.parse e with
        | error e' => rw [hconfig, hf] at hcheck; cases hcheck
        | ok f' => rw [hconfig, hf] at hcheck; cases hcheck; rfl
    refine ⟨f, hparse, ?_⟩
    rw [houtput]
    exact Presentation.documents_shown hjson (fun bound => decodes_check bound e f) _

/-- A quiet listing of an album with a quote in its name and a line break in its tag. -/
theorem quoted_album_is_read_back :
    let a : Album := ⟨⟨7, by decide⟩, "\"", "", "", "o", ⟨⟨2016, 12, 31, by decide⟩, 86399,
      1000000001, by decide⟩, ["t\n"], [], [⟨"g", [.read]⟩]⟩
    let env : Environment := { albums := some "a.json", home := some "/h" }
    let arguments := ["--json", "--quiet", "list"]
    let t : FileTree := ⟨[(["a.json"], .file (albumsText [a]).toUTF8)], []⟩
    (∃ i, Invocation.ofArguments env.albums arguments = .ok i ∧ i.flags.json ∧
      i.command = some (.list {})) ∧
    (t.runProgram env arguments).1.exitStatus = 0 ∧
    Documents (t.runProgram env arguments).1.output readPage ⟨[a], 1, 0⟩ := by
  intro a env arguments t
  have hi : Invocation.ofArguments env.albums arguments =
      .ok ⟨{ json := true, quiet := true, albums := some ⟨"a.json"⟩ }, some (.list {})⟩ := by
    decide +kernel
  have hnone : ∀ content,
      FileTree.configuration ⟨[(["a.json"], .file content)], []⟩ env = .ok {} := fun _ => rfl
  have hconfig : t.configuration env = .ok {} := hnone _
  have hload : t.run (AlbumStore.mk ⟨"a.json"⟩).load = (.ok [a], t) :=
    AlbumStore.run_load_eq_ok.mpr ⟨rfl, _, FileTree.readText_single _, albumsOfText_albumsText [a]⟩
  have hlisting : t.listing env { json := true, quiet := true, albums := some ⟨"a.json"⟩ } {} =
      .ok ({}, ⟨[a], 1, []⟩) := by
    unfold FileTree.listing
    refine (bind_of_eq_ok hconfig _ _).trans ?_
    refine (bind_of_eq_ok (a := none) rfl _ _).trans ?_
    refine (bind_of_eq_ok (a := AlbumStore.mk ⟨"a.json"⟩) rfl _ _).trans ?_
    exact bind_of_eq_ok (congrArg Prod.fst hload) _ _
  obtain ⟨notes, hsuccess, -⟩ := runProgram_of_answers hi (answers_list env _ {} t)
  have hok : (t.runProgram env arguments).1.exitStatus = 0 := by rw [hsuccess _ hlisting]
  obtain ⟨config, page, hpage, hdocument⟩ := (json_output_is_read_back hi rfl t hok).1 {} rfl
  rw [hlisting] at hpage
  cases hpage
  exact ⟨⟨_, hi, rfl, rfl⟩, hok, hdocument⟩

end AlbumCatalog
