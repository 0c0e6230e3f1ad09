import AlbumCatalog.Proofs.AlbumText
import AlbumCatalog.Proofs.FileTree
import AlbumCatalog.Album.Store

/-!
# What saving does to a file tree

A run of a save adds directories, then writes the draft, then moves it over the file. Where it ends
early, what it did before stays.
-/

namespace AlbumCatalog

namespace FileTree

variable {t t' : FileTree} {p : Path} {α β ε ε' : Type}

/-! ### Programs on trees -/

/-- The result of a program on the tree, and the tree that it leaves. -/
def run (t : FileTree) (x : ExceptT ε (StateM FileTree) α) : Except ε α × FileTree :=
  StateT.run (ExceptT.run x) t

section Run

variable {x : ExceptT ε (StateM FileTree) α}

lemma run_bind_ok {a : α} (h : t.run x = (.ok a, t')) (f : α → ExceptT ε (StateM FileTree) β) :
    t.run (x >>= f) = t'.run (f a) := by
  simp only [run] at h
  simp only [run, ExceptT.run_bind, StateT.run_bind, h]
  rfl

lemma run_bind_error {e : ε} (h : t.run x = (.error e, t'))
    (f : α → ExceptT ε (StateM FileTree) β) : t.run (x >>= f) = (.error e, t') := by
  simp only [run] at h
  simp only [run, ExceptT.run_bind, StateT.run_bind, h]
  rfl

lemma run_adapt_ok {a : α} (h : t.run x = (.ok a, t')) (f : ε → ε') :
    t.run (x.adapt f) = (.ok a, t') := by
  change ((t.run x).1.mapError f, (t.run x).2) = _
  rw [h]
  rfl

lemma run_adapt_error {e : ε} (h : t.run x = (.error e, t')) (f : ε → ε') :
    t.run (x.adapt f) = (.error (f e), t') := by
  change ((t.run x).1.mapError f, (t.run x).2) = _
  rw [h]
  rfl

lemma run_tryCatch_ok {a : α} (h : t.run x = (.ok a, t'))
    (handler : ε → ExceptT ε (StateM FileTree) α) :
    t.run (tryCatch x handler) = (.ok a, t') := by
  change StateT.run x t = _ at h
  simp only [run, tryCatch, tryCatchThe, MonadExceptOf.tryCatch, ExceptT.tryCatch, ExceptT.run_mk,
    StateT.run_bind, h]
  rfl

lemma run_tryCatch_error {e : ε} (h : t.run x = (.error e, t'))
    (handler : ε → ExceptT ε (StateM FileTree) α) :
    t.run (tryCatch x handler) = t'.run (handler e) := by
  change StateT.run x t = _ at h
  simp only [run, tryCatch, tryCatchThe, MonadExceptOf.tryCatch, ExceptT.tryCatch, ExceptT.run_mk,
    StateT.run_bind, h]
  rfl

end Run

lemma run_change_ok {f : FileTree → Except FileError FileTree} (h : f t = .ok t') :
    t.run (change f) = (.ok (), t') := by
  simp only [run, change, ExceptT.run_mk, StateT.run, h]

lemma run_change_error {f : FileTree → Except FileError FileTree} {e : FileError}
    (h : f t = .error e) : t.run (change f) = (.error e, t) := by
  simp only [run, change, ExceptT.run_mk, StateT.run, h]

/-! ### Making directories -/

/-- There is nothing to do for the path: a directory is there, or the path is empty. -/
def HasDirectory (t : FileTree) (p : Path) : Prop :=
  p.text.isEmpty ∨ t.isDirectory p

lemma isDirectory_of_makeDirectory (h : t.makeDirectory p = .ok t') : t'.isDirectory p := by
  obtain ⟨l, hl, hnone, rfl⟩ := makeDirectory_eq_ok h
  have hne : t.lookup? l ≠ some .directory := by simp [hnone]
  exact isDirectory_eq_true.mpr
    ⟨l, hl.keep (addsDirectories_set hnone).keepsDirectories, lookup?_set_self hne _⟩

lemma addsDirectories_of_makeDirectory (h : t.makeDirectory p = .ok t') : AddsDirectories t t' := by
  obtain ⟨l, -, hnone, rfl⟩ := makeDirectory_eq_ok h
  exact addsDirectories_set hnone

/-- The program adds nothing but directories, and if it succeeds the directory is there. -/
def EnsuresDirectory (p : Path) (x : ExceptT FileError (StateM FileTree) Unit) : Prop :=
  ∀ t r t', t.run x = (r, t') → AddsDirectories t t' ∧ (r = .ok () → t'.HasDirectory p)

lemma run_unlessDirectory (t : FileTree) (p : Path) (e : FileError) :
    t.run (FileSystem.unlessDirectory p e) =
      (if t.isDirectory p then .ok () else .error e, t) := by
  change t.run (if t.isDirectory p then pure () else throw e) = _
  split <;> rfl

lemma ensuresDirectory_unlessDirectory (p : Path) (e : FileError) :
    EnsuresDirectory p (FileSystem.unlessDirectory p e) := by
  intro t r t' h
  rw [run_unlessDirectory] at h
  cases h
  refine ⟨.refl t, fun hok => .inr ?_⟩
  split at hok
  · assumption
  · cases hok

/-- A directory is made first, and what is done about an error is done on the same tree. -/
lemma EnsuresDirectory.tryCatch
    {handler : FileError → ExceptT FileError (StateM FileTree) Unit}
    (h : ∀ e, EnsuresDirectory p (handler e)) :
    EnsuresDirectory p (tryCatch (FileSystem.makeDirectory p) handler) := by
  intro t r t' hrun
  cases hmake : t.makeDirectory p with
  | ok t₁ =>
    have hok : t.run (FileSystem.makeDirectory p) = (.ok (), t₁) := run_change_ok hmake
    rw [run_tryCatch_ok hok] at hrun
    cases hrun
    exact ⟨addsDirectories_of_makeDirectory hmake, fun _ => .inr (isDirectory_of_makeDirectory hmake)⟩
  | error e =>
    have herror : t.run (FileSystem.makeDirectory p) = (.error e, t) := run_change_error hmake
    rw [run_tryCatch_error herror] at hrun
    exact h e t r t' hrun

lemma ensuresDirectory_pure (h : p.text.isEmpty) : EnsuresDirectory p (pure ()) := by
  intro t r t' hrun
  cases hrun
  exact ⟨.refl t, fun _ => .inl h⟩

lemma ensuresDirectory_ensureDirectory (p : Path) :
    EnsuresDirectory p (FileSystem.ensureDirectory p) := by
  rw [FileSystem.ensureDirectory]
  split
  · exact ensuresDirectory_pure ‹_›
  · exact .tryCatch (ensuresDirectory_unlessDirectory p)

lemma ensuresDirectory_makeDirectoriesFrom (further : List Path) (p : Path) :
    EnsuresDirectory p (FileSystem.makeDirectoriesFrom further p) := by
  induction further generalizing p with
  | nil => exact ensuresDirectory_ensureDirectory p
  | cons parent further ih =>
    rw [FileSystem.makeDirectoriesFrom]
    split
    · exact ensuresDirectory_pure ‹_›
    apply EnsuresDirectory.tryCatch
    intro e
    split
    · intro t r t' hrun
      rcases hparent : t.run (FileSystem.makeDirectoriesFrom further parent) with ⟨r₁, t₁⟩
      obtain ⟨hadds, -⟩ := ih parent t r₁ t₁ hparent
      cases r₁ with
      | error e =>
        rw [run_bind_error hparent] at hrun
        cases hrun
        exact ⟨hadds, fun h => by cases h⟩
      | ok u =>
        rw [run_bind_ok hparent] at hrun
        obtain ⟨hadds', hhas⟩ := ensuresDirectory_ensureDirectory p t₁ r t' hrun
        exact ⟨hadds.trans hadds', hhas⟩
    · exact ensuresDirectory_unlessDirectory p _

lemma run_makeDirectories_of_hasDirectory (h : t.HasDirectory p) :
    t.run (FileSystem.makeDirectories p) = (.ok (), t) := by
  have htry : ∀ handler : FileError → ExceptT FileError (StateM FileTree) Unit,
      t.isDirectory p → handler .alreadyExists = FileSystem.unlessDirectory p .alreadyExists →
        t.run (tryCatch (FileSystem.makeDirectory p) handler) = (.ok (), t) := by
    intro handler hp hhandler
    have herror : t.run (FileSystem.makeDirectory p) = (.error .alreadyExists, t) :=
      run_change_error (makeDirectory_of_isDirectory hp)
    rw [run_tryCatch_error herror, hhandler, run_unlessDirectory, if_pos hp]
  rw [FileSystem.makeDirectories]
  cases p.ancestors with
  | nil =>
    rw [FileSystem.makeDirectoriesFrom, FileSystem.ensureDirectory]
    split
    · rfl
    · exact htry _ (h.resolve_left ‹_›) rfl
  | cons parent further =>
    rw [FileSystem.makeDirectoriesFrom]
    split
    · rfl
    · exact htry _ (h.resolve_left ‹_›) rfl

end FileTree

open FileTree

/-! ### Runs of a save -/

/-- How far a save got, with its result and the tree that it leaves. -/
inductive SaveRun (s : AlbumStore) (albums : List Album) (t : FileTree) :
    Except StoreError Unit → FileTree → Prop
  | undrafted {t' : FileTree} (e : StoreError) (hdirs : AddsDirectories t t') :
      SaveRun s albums t (.error e) t'
  | unmoved {t₀ t' : FileTree} (e : StoreError) {cause : FileError} (hdirs : AddsDirectories t t₀)
      (hwrite : t₀.writeText s.draftPath (albumsText albums) = .ok t')
      (hmove : t'.moveFile s.draftPath s.path = .error cause) :
      SaveRun s albums t (.error e) t'
  | moved {t₀ t₁ t' : FileTree} (hdirs : AddsDirectories t t₀)
      (hparent : ∀ parent ∈ s.path.parent?, t₀.HasDirectory parent)
      (hwrite : t₀.writeText s.draftPath (albumsText albums) = .ok t₁)
      (hmove : t₁.moveFile s.draftPath s.path = .ok t') :
      SaveRun s albums t (.ok ()) t'

namespace AlbumStore

/-- What a save does before it writes. -/
def prepare (s : AlbumStore) : ExceptT StoreError (StateM FileTree) Unit :=
  match s.path.parent? with
  | some parent => (FileSystem.makeDirectories parent).adapt (.makeDirectory parent)
  | none => pure ()

lemma save_eq (s : AlbumStore) (albums : List Album) :
    s.save (m := StateM FileTree) albums = (do
      s.prepare
      (FileSystem.writeText s.draftPath (albumsText albums)).adapt (.write s.draftPath)
      (FileSystem.moveFile s.draftPath s.path).adapt (.write s.path)) := by
  unfold save prepare
  cases s.path.parent? with
  | none => simp only [pure_bind]
  | some parent => simp only

variable {s : AlbumStore} {albums : List Album} {t t' : FileTree}

lemma run_prepare {r : Except StoreError Unit} (h : t.run s.prepare = (r, t')) :
    AddsDirectories t t' ∧ (r = .ok () → ∀ parent ∈ s.path.parent?, t'.HasDirectory parent) := by
  rw [prepare] at h
  cases hparent : s.path.parent? with
  | none =>
    rw [hparent] at h
    cases h
    exact ⟨.refl t, fun _ _ hmem => by cases hmem⟩
  | some parent =>
    rw [hparent] at h
    rcases hrun : t.run (FileSystem.makeDirectories parent) with ⟨r₁, t₁⟩
    obtain ⟨hadds, hhas⟩ := ensuresDirectory_makeDirectoriesFrom _ parent t r₁ t₁ hrun
    cases r₁ with
    | error e =>
      rw [run_adapt_error hrun] at h
      cases h
      exact ⟨hadds, fun hok => by cases hok⟩
    | ok u =>
      rw [run_adapt_ok hrun] at h
      cases h
      refine ⟨hadds, fun _ _ hmem => ?_⟩
      cases hmem
      exact hhas rfl

lemma saveRun {r : Except StoreError Unit} (h : t.run (s.save albums) = (r, t')) :
    SaveRun s albums t r t' := by
  rw [save_eq] at h
  rcases hprepare : t.run s.prepare with ⟨r₀, t₀⟩
  obtain ⟨hdirs, hparent⟩ := run_prepare hprepare
  cases r₀ with
  | error e =>
    rw [run_bind_error hprepare] at h
    cases h
    exact .undrafted e hdirs
  | ok u =>
    rw [run_bind_ok hprepare] at h
    cases hwrite : t₀.writeText s.draftPath (albumsText albums) with
    | error e =>
      have hstep : t₀.run (FileSystem.writeText s.draftPath (albumsText albums)) =
        (.error e, t₀) := run_change_error hwrite
      rw [run_bind_error (run_adapt_error hstep _)] at h
      cases h
      exact .undrafted _ hdirs
    | ok t₁ =>
      have hstep : t₀.run (FileSystem.writeText s.draftPath (albumsText albums)) =
        (.ok (), t₁) := run_change_ok hwrite
      rw [run_bind_ok (run_adapt_ok hstep _)] at h
      cases hmove : t₁.moveFile s.draftPath s.path with
      | error e =>
        have hlast : t₁.run (FileSystem.moveFile s.draftPath s.path) = (.error e, t₁) :=
          run_change_error hmove
        rw [run_adapt_error hlast] at h
        cases h
        exact .unmoved _ hdirs hwrite hmove
      | ok t₂ =>
        have hlast : t₁.run (FileSystem.moveFile s.draftPath s.path) = (.ok (), t₂) :=
          run_change_ok hmove
        rw [run_adapt_ok hlast] at h
        cases h
        exact .moved hdirs (hparent rfl) hwrite hmove

lemma run_prepare_of_hasDirectory (h : ∀ parent ∈ s.path.parent?, t.HasDirectory parent) :
    t.run s.prepare = (.ok (), t) := by
  rw [prepare]
  cases hparent : s.path.parent? with
  | none => rfl
  | some parent => exact run_adapt_ok (run_makeDirectories_of_hasDirectory (h parent hparent)) _

lemma run_save_ok {t₀ t₁ : FileTree} (hprepare : t.run s.prepare = (.ok (), t₀))
    (hwrite : t₀.writeText s.draftPath (albumsText albums) = .ok t₁)
    (hmove : t₁.moveFile s.draftPath s.path = .ok t') :
    t.run (s.save albums) = (.ok (), t') := by
  have hstep : t₀.run (FileSystem.writeText s.draftPath (albumsText albums)) = (.ok (), t₁) :=
    run_change_ok hwrite
  have hlast : t₁.run (FileSystem.moveFile s.draftPath s.path) = (.ok (), t') :=
    run_change_ok hmove
  rw [save_eq, run_bind_ok hprepare, run_bind_ok (run_adapt_ok hstep _), run_adapt_ok hlast]

/-- Where the album file is, or would be. -/
def place (s : AlbumStore) (t : FileTree) : Location :=
  s.path.placeFrom t.workingDirectory

def draftPlace (s : AlbumStore) (t : FileTree) : Location :=
  s.draftPath.placeFrom t.workingDirectory

lemma place_eq (h : t'.workingDirectory = t.workingDirectory) (s : AlbumStore) :
    s.place t' = s.place t := by
  rw [place, h, place]

lemma draftPlace_eq (h : t'.workingDirectory = t.workingDirectory) (s : AlbumStore) :
    s.draftPlace t' = s.draftPlace t := by
  rw [draftPlace, h, draftPlace]

/-- A load only reads, and its result is that of the text. -/
lemma run_load (s : AlbumStore) (t : FileTree) : t.run s.load =
    (match t.readText s.path with
    | .ok text => (albumsOfText text).mapError .format
    | .error e => .error (.read s.path e), t) := by
  have hread : t.run (FileSystem.readText s.path) = (t.readText s.path, t) := rfl
  cases htext : t.readText s.path with
  | ok text =>
    rw [htext] at hread
    rw [load, run_bind_ok (run_adapt_ok hread _)]
    rfl
  | error e =>
    rw [htext] at hread
    rw [load, run_bind_error (run_adapt_error hread _)]

lemma run_load_eq_ok : t.run s.load = (.ok albums, t') ↔
    t' = t ∧ ∃ text, t.readText s.path = .ok text ∧ albumsOfText text = .ok albums := by
  rw [run_load, Prod.mk.injEq, and_comm, eq_comm]
  refine and_congr_right fun _ => ?_
  cases t.readText s.path with
  | error e => simp
  | ok text =>
    cases hparse : albumsOfText text <;> simp [hparse, Except.mapError]

end AlbumStore

/-! ### What a save leaves -/

lemma fromUTF8?_toUTF8 (text : String) : String.fromUTF8? text.toUTF8 = some text := by
  rw [String.fromUTF8?, String.toUTF8_eq_toByteArray, dif_pos text.isValidUTF8]
  rfl

/-- A tree of one file. -/
lemma FileTree.readText_single (text : String) :
    readText ⟨[(["a.json"], .file text.toUTF8)], []⟩ ⟨"a.json"⟩ = .ok text :=
  readText_eq_ok.mpr ⟨["a.json"], _, ⟨rfl, rfl⟩, rfl, rfl, fromUTF8?_toUTF8 text⟩

namespace SaveRun

variable {s : AlbumStore} {albums : List Album} {t t' : FileTree} {r : Except StoreError Unit}

lemma keepsDirectories (h : SaveRun s albums t r t') : KeepsDirectories t t' := by
  cases h with
  | undrafted e hdirs => exact hdirs.keepsDirectories
  | unmoved e hdirs hwrite =>
    exact hdirs.keepsDirectories.trans (sameDirectories_writeText hwrite).keepsDirectories
  | moved hdirs hparent hwrite hmove =>
    have hsame := (sameDirectories_writeText hwrite).trans (sameDirectories_moveFile hmove)
    exact hdirs.keepsDirectories.trans hsame.keepsDirectories

section Draft

variable {t₀ t₁ : FileTree} (hdirs : AddsDirectories t t₀)
  (hwrite : t₀.writeText s.draftPath (albumsText albums) = .ok t₁)
include hdirs hwrite

lemma workingDirectory_draft : t₁.workingDirectory = t.workingDirectory :=
  (sameDirectories_writeText hwrite).workingDirectory.trans hdirs.workingDirectory

/-- Up to the draft, only the draft has changed. -/
lemma sameFiles_draft : SameFilesExcept {s.draftPlace t} t t₁ := by
  have hfiles : SameFilesExcept {s.draftPlace t₀} t₀ t₁ := sameFiles_writeText hwrite
  rw [s.draftPlace_eq hdirs.workingDirectory] at hfiles
  exact (hdirs.sameFiles _).trans hfiles

lemma fileAt?_draft : t₁.fileAt? (s.draftPlace t) = some (albumsText albums).toUTF8 := by
  rw [← s.draftPlace_eq hdirs.workingDirectory]
  exact fileAt?_writeText hwrite

end Draft

lemma sameFiles (h : SaveRun s albums t r t') :
    SameFilesExcept {s.place t, s.draftPlace t} t t' := by
  cases h with
  | undrafted e hdirs => exact hdirs.sameFiles _
  | unmoved e hdirs hwrite => exact (sameFiles_draft hdirs hwrite).mono (by simp)
  | @moved t₀ t₁ _ hdirs hparent hwrite hmove =>
    have hdirectory := workingDirectory_draft hdirs hwrite
    have hfiles : SameFilesExcept {s.place t₁, s.draftPlace t₁} t₁ t' := sameFiles_moveFile hmove
    rw [s.place_eq hdirectory, s.draftPlace_eq hdirectory] at hfiles
    exact ((sameFiles_draft hdirs hwrite).mono (by simp)).trans hfiles

lemma sameFiles_of_failure (h : SaveRun s albums t r t') (hr : r ≠ .ok ()) :
    SameFilesExcept {s.draftPlace t} t t' := by
  cases h with
  | undrafted e hdirs => exact hdirs.sameFiles _
  | unmoved e hdirs hwrite => exact sameFiles_draft hdirs hwrite
  | moved hdirs hparent hwrite hmove => exact absurd rfl hr

section Success

variable (h : SaveRun s albums t (.ok ()) t')
include h

lemma fileAt?_place : t'.fileAt? (s.place t) = some (albumsText albums).toUTF8 := by
  cases h with
  | @moved t₀ t₁ _ hdirs hparent hwrite hmove =>
    have hdirectory := workingDirectory_draft hdirs hwrite
    have hfile : t'.fileAt? (s.place t₁) = t₁.fileAt? (s.draftPlace t₁) := fileAt?_moveFile hmove
    rw [s.place_eq hdirectory, s.draftPlace_eq hdirectory] at hfile
    exact hfile.trans (fileAt?_draft hdirs hwrite)

lemma fileAt?_draftPlace (hne : s.draftPlace t ≠ s.place t) :
    t'.fileAt? (s.draftPlace t) = none := by
  cases h with
  | @moved t₀ t₁ _ hdirs hparent hwrite hmove =>
    have hdirectory := workingDirectory_draft hdirs hwrite
    rw [← s.place_eq hdirectory, ← s.draftPlace_eq hdirectory] at hne
    rw [← s.draftPlace_eq hdirectory]
    exact fileAt?_moveFile_source hmove hne

lemma readText : t'.readText s.path = .ok (albumsText albums) := by
  have hfile := h.fileAt?_place
  cases h with
  | @moved t₀ t₁ _ hdirs hparent hwrite hmove =>
    have hkeep := (sameDirectories_moveFile hmove).keepsDirectories
    obtain ⟨old, new, content, -, hnew, -, hslash, -⟩ := moveFile_eq_ok.mp hmove
    have hplace : new = s.place t := by
      rw [← s.place_eq (workingDirectory_draft hdirs hwrite)]
      exact hnew.place
    rw [← hplace] at hfile
    rw [Bool.or_eq_false_iff] at hslash
    exact readText_eq_ok.mpr ⟨new, _, hnew.keep hkeep, hslash.2, fileAt?_eq_some.mp hfile,
      fromUTF8?_toUTF8 _⟩

/-- Where a save has succeeded, so does the next: the directories are still there, and the places
of the draft and of the file are as free as they were. -/
lemma again (albums' : List Album) : ∃ t'', t'.run (s.save albums') = (.ok (), t'') := by
  cases h with
  | @moved t₀ t₁ _ hdirs hparent hwrite hmove =>
    have hsame := (sameDirectories_writeText hwrite).trans (sameDirectories_moveFile hmove)
    have hprepare : t'.run s.prepare = (.ok (), t') :=
      AlbumStore.run_prepare_of_hasDirectory fun parent hmem =>
        (hparent parent hmem).imp id hsame.keepsDirectories.isDirectory
    obtain ⟨t₂, hwrite'⟩ := writeText_of_sameDirectories hwrite hsame (albumsText albums')
    have hsame' := sameDirectories_writeText hwrite'
    have hdraft := fileAt?_writeText hwrite'
    rw [← hsame'.workingDirectory] at hdraft
    obtain ⟨t₃, hmove'⟩ :=
      moveFile_of_sameDirectories hmove ((sameDirectories_moveFile hmove).trans hsame') hdraft
    exact ⟨t₃, AlbumStore.run_save_ok hprepare hwrite' hmove'⟩

end Success

end SaveRun

/-! ### Saved lists are read back -/

/-- A list that has been saved is what is loaded, one album is read back from its line, and a list
that was loaded from any text can be saved again and again to the same bytes. -/
theorem saved_albums_are_read_back :
    (∀ (s : AlbumStore) (albums : List Album) (t t' : FileTree),
      t.run (s.save albums) = (.ok (), t') → t'.run s.load = (.ok albums, t')) ∧
    (∀ a : Album, Album.ofJsonText a.json.compact = .ok a) ∧
    ∀ (s : AlbumStore) (albums : List Album) (t t' : FileTree),
      t.run s.load = (.ok albums, t) → t.run (s.save albums) = (.ok (), t') →
        t'.run s.load = (.ok albums, t') ∧
        ∃ t'' content, t'.run (s.save albums) = (.ok (), t'') ∧
          t'.fileAt? (s.place t) = some content ∧ t''.fileAt? (s.place t) = some content := by
  have hread : ∀ (s : AlbumStore) (albums : List Album) (t t' : FileTree),
      t.run (s.save albums) = (.ok (), t') → t'.run s.load = (.ok albums, t') := by
    intro s albums t t' h
    exact AlbumStore.run_load_eq_ok.mpr
      ⟨rfl, _, (AlbumStore.saveRun h).readText, albumsOfText_albumsText albums⟩
  refine ⟨hread, Album.ofJsonText_compact, fun s albums t t' _ hsave => ?_⟩
  have hrun := AlbumStore.saveRun hsave
  obtain ⟨t'', hagain⟩ := hrun.again albums
  have hplace : s.place t' = s.place t := s.place_eq hrun.keepsDirectories.workingDirectory
  have hbytes := (AlbumStore.saveRun hagain).fileAt?_place
  rw [hplace] at hbytes
  exact ⟨hread s albums t t' hsave, t'', _, hagain, hrun.fileAt?_place, hbytes⟩

/-- An album with a quote in its name, made in a leap second, and a file with blanks in it. -/
theorem leap_second_album_is_read_back :
    (∃ t', FileTree.run {} ((AlbumStore.mk ⟨"a.json"⟩).save
          [⟨⟨-1, by decide⟩, "\"", "", "", "o", ⟨⟨2016, 12, 31, by decide⟩, 86399, 1000000001,
            by decide⟩, ["t"], [], []⟩]) = (.ok (), t') ∧
      t'.run (AlbumStore.mk ⟨"a.json"⟩).load = (.ok
          [⟨⟨-1, by decide⟩, "\"", "", "", "o", ⟨⟨2016, 12, 31, by decide⟩, 86399, 1000000001,
            by decide⟩, ["t"], [], []⟩], t')) ∧
    ∃ t', FileTree.run ⟨[(["a.json"], .file " [ ] ".toUTF8)], []⟩
        ((AlbumStore.mk ⟨"a.json"⟩).save []) = (.ok (), t') ∧
      ∃ t'', t'.run ((AlbumStore.mk ⟨"a.json"⟩).save []) = (.ok (), t'') := by
  constructor
  · have hsave : ∃ t', FileTree.run {} ((AlbumStore.mk ⟨"a.json"⟩).save
        [⟨⟨-1, by decide⟩, "\"", "", "", "o", ⟨⟨2016, 12, 31, by decide⟩, 86399, 1000000001,
          by decide⟩, ["t"], [], []⟩]) = (.ok (), t') := ⟨_, rfl⟩
    obtain ⟨t', hsave⟩ := hsave
    exact ⟨t', hsave, saved_albums_are_read_back.1 _ _ _ _ hsave⟩
  · have hload : FileTree.run ⟨[(["a.json"], .file " [ ] ".toUTF8)], []⟩
        (AlbumStore.mk ⟨"a.json"⟩).load = (.ok [], _) := rfl
    have hsave : ∃ t', FileTree.run ⟨[(["a.json"], .file " [ ] ".toUTF8)], []⟩
        ((AlbumStore.mk ⟨"a.json"⟩).save []) = (.ok (), t') := ⟨_, rfl⟩
    obtain ⟨t', hsave⟩ := hsave
    obtain ⟨-, t'', content, hagain, -⟩ := saved_albums_are_read_back.2.2 _ _ _ _ hload hsave
    exact ⟨t', hsave, t'', hagain⟩

end AlbumCatalog
