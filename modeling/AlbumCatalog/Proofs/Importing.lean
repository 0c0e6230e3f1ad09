import AlbumCatalog.Proofs.Sessions

/-!
# What saving and importing touch

A save touches the album file and its draft and no other file; if it fails, it touches the draft
alone. An import reads its configuration and its source before it saves anything, so it touches
what its save touches.
-/

namespace AlbumCatalog

open FileTree Session

variable {t t' : FileTree}

/-! ### Other stores -/

section Other

variable {other : AlbumStore} {found : List Album}

lemma load_of_keepsDirectories (h : KeepsDirectories t t')
    (hfile : t'.fileAt? (other.place t) = t.fileAt? (other.place t))
    (hload : t.run other.load = (.ok found, t)) : t'.run other.load = (.ok found, t') := by
  obtain ⟨-, text, hread, hparse⟩ := AlbumStore.run_load_eq_ok.mp hload
  exact AlbumStore.run_load_eq_ok.mpr ⟨rfl, text, h.readText hfile hread, hparse⟩

lemma load_of_rooted (h : t.Rooted) (hpath : ".." ∉ other.path.components)
    (hdirectory : t'.workingDirectory = t.workingDirectory)
    (hfile : t'.fileAt? (other.place t) = t.fileAt? (other.place t))
    (hload : t'.run other.load = (.ok found, t')) : t.run other.load = (.ok found, t) := by
  obtain ⟨-, text, hread, hparse⟩ := AlbumStore.run_load_eq_ok.mp hload
  exact AlbumStore.run_load_eq_ok.mpr
    ⟨rfl, text, h.readText hpath hdirectory hfile hread, hparse⟩

end Other

/-! ### Imports -/

/-- How an import ends: before anything is saved, or with a save of the albums of its source. -/
inductive ImportRun (env : Environment) (flags : Flags) (source : Path) (t : FileTree) :
    Except CommandError Unit → FileTree → Prop
  | unsaved (e : CommandError) : ImportRun env flags source t (.error e) t
  | saving {config : Config} {report : Report} {store : AlbumStore} {albums : List Album}
      {r : Except StoreError Unit} {t' : FileTree}
      (hconfig : (startConfig env).runOn {} t = ((.ok config, report), t))
      (hstore : chooseStore env flags config = .ok store)
      (hload : t.run (AlbumStore.mk source).load = (.ok albums, t))
      (hsave : t.run (store.save albums) = (r, t')) :
      ImportRun env flags source t (r.mapError .store) t'

section Import

variable {env : Environment} {flags : Flags} {source : Path} {r : Except CommandError Unit}

lemma importRun_of_config {config : Config} {report report' : Report}
    (hconfig : (startConfig env).runOn {} t = ((.ok config, report), t))
    (h : (runImport env flags config source).runOn report t = ((r, report'), t')) :
    ImportRun env flags source t r t' := by
  rw [runImport] at h
  rcases hload : t.run (AlbumStore.mk source).load with ⟨r₀, t₀⟩
  have ht : t₀ = t := by simpa [hload] using onlyReads_load ⟨source⟩ t
  subst t₀
  cases r₀ with
  | error e =>
    obtain ⟨report₁, hstep⟩ := runOn_perform_error hload .store (Event.ofLoad source) report
    rw [loadAlbums, runOn_bind_error hstep] at h
    cases h
    exact .unsaved _
  | ok albums =>
    obtain ⟨report₁, hstep⟩ := runOn_perform_ok hload .store (Event.ofLoad source) report
    rw [loadAlbums, runOn_bind_ok hstep] at h
    have hrequire := runOn_require .store (chooseStore env flags config) report₁ t
    cases hstore : chooseStore env flags config with
    | error e =>
      rw [hstore] at h hrequire
      rw [runOn_bind_error hrequire] at h
      cases h
      exact .unsaved _
    | ok store =>
      rw [hstore] at h hrequire
      rw [runOn_bind_ok hrequire] at h
      rcases hsave : t.run (store.save albums) with ⟨r₁, t₁⟩
      cases r₁ with
      | error e =>
        obtain ⟨report₂, hstep⟩ := runOn_perform_error hsave .store (fun _ => []) report₁
        rw [runOn_bind_error hstep] at h
        cases h
        exact .saving hconfig hstore hload hsave
      | ok u =>
        obtain ⟨report₂, hstep⟩ := runOn_perform_ok hsave .store (fun _ => []) report₁
        rw [runOn_bind_ok hstep, runOn_bind_ok (runOn_emit _ _ _), runOn_write] at h
        cases h
        exact .saving hconfig hstore hload hsave

lemma importRun {report' : Report}
    (h : (Invocation.session env ⟨flags, some (.importing source)⟩).runOn {} t =
      ((r, report'), t')) : ImportRun env flags source t r t' := by
  change (startConfig env >>= fun config => runImport env flags config source).runOn {} t = _ at h
  rcases hconfig : (startConfig env).runOn {} t with ⟨⟨r₀, report₀⟩, t₀⟩
  have ht : t₀ = t := by simpa [hconfig] using leavesTree_startConfig env {} t
  subst t₀
  cases r₀ with
  | error e =>
    rw [runOn_bind_error hconfig] at h
    cases h
    exact .unsaved e
  | ok config =>
    rw [runOn_bind_ok hconfig] at h
    exact importRun_of_config hconfig h

end Import

/-! ### What is touched -/

/-- A save touches the album file and its draft, of which only the draft if it fails, and no other
store loads another list after it. An import touches nothing before its save, and leaves its source
as it was unless that is one of the two files. -/
theorem save_and_import_touch_file_and_draft :
    (∀ (s : AlbumStore) (albums : List Album) (t t' : FileTree) (r : Except StoreError Unit),
      t.run (s.save albums) = (r, t') →
        SameFilesExcept {s.place t, s.draftPlace t} t t' ∧
        (r = .ok () → t'.fileAt? (s.place t) = some (albumsText albums).toUTF8 ∧
          (s.draftPlace t ≠ s.place t → t'.fileAt? (s.draftPlace t) = none)) ∧
        (r ≠ .ok () → SameFilesExcept {s.draftPlace t} t t') ∧
        ∀ other : AlbumStore, other.place t ≠ s.place t → other.place t ≠ s.draftPlace t →
          (∀ found, t.run other.load = (.ok found, t) → t'.run other.load = (.ok found, t')) ∧
          (t.Rooted → ".." ∉ other.path.components →
            ∀ found, t'.run other.load = (.ok found, t') → t.run other.load = (.ok found, t))) ∧
    ∀ (env : Environment) (flags : Flags) (source : Path) (t t' : FileTree)
      (r : Except CommandError Unit) (report : Report),
      (Invocation.session env ⟨flags, some (.importing source)⟩).runOn {} t =
          ((r, report), t') →
        (r ≠ .ok () ∧ t' = t) ∨
        ∃ config report₀ store, (startConfig env).runOn {} t = ((.ok config, report₀), t) ∧
          chooseStore env flags config = .ok store ∧
          SameFilesExcept {store.place t, store.draftPlace t} t t' ∧
          (r ≠ .ok () → SameFilesExcept {store.draftPlace t} t t') ∧
          (source.placeFrom t.workingDirectory ≠ store.place t →
            source.placeFrom t.workingDirectory ≠ store.draftPlace t →
              t'.readText source = t.readText source) := by
  constructor
  · intro s albums t t' r h
    have hrun := AlbumStore.saveRun h
    have hkeep := hrun.keepsDirectories
    refine ⟨hrun.sameFiles, ?_, hrun.sameFiles_of_failure, fun other hne hne' => ?_⟩
    · rintro rfl
      exact ⟨hrun.fileAt?_place, hrun.fileAt?_draftPlace⟩
    · have hfile := hrun.sameFiles (other.place t) (by simp [hne, hne'])
      exact ⟨fun _ => load_of_keepsDirectories hkeep hfile,
        fun hrooted hpath _ => load_of_rooted hrooted hpath hkeep.workingDirectory hfile⟩
  · intro env flags source t t' r report h
    cases importRun h with
    | unsaved e => exact .inl ⟨by simp, rfl⟩
    | @saving config report₀ store albums r _ hconfig hstore hload hsave =>
      have hrun := AlbumStore.saveRun hsave
      refine .inr ⟨config, report₀, store, hconfig, hstore, hrun.sameFiles, ?_, ?_⟩
      · intro hr
        refine hrun.sameFiles_of_failure ?_
        rintro rfl
        exact hr rfl
      · intro hne hne'
        obtain ⟨-, text, hread, -⟩ := AlbumStore.run_load_eq_ok.mp hload
        have hfile := hrun.sameFiles (source.placeFrom t.workingDirectory) (by simp [hne, hne'])
        exact (hrun.keepsDirectories.readText hfile hread).trans hread.symm

/-- A store with a list of its own beside the album file, which is imported in the end. -/
theorem save_and_import_beside_other_store :
    (∃ t', FileTree.run ⟨[(["b.json"], .file "[]".toUTF8)], []⟩
          ((AlbumStore.mk ⟨"a.json"⟩).save []) = (.ok (), t') ∧
        t'.fileAt? ["a.json"] = some (albumsText []).toUTF8 ∧
        t'.run (AlbumStore.mk ⟨"b.json"⟩).load = (.ok [], t') ∧
        FileTree.run ⟨[(["b.json"], .file "[]".toUTF8)], []⟩ (AlbumStore.mk ⟨"b.json"⟩).load =
          (.ok [], ⟨[(["b.json"], .file "[]".toUTF8)], []⟩)) ∧
    ∃ report t', (Invocation.session { home := some "/h" }
          ⟨{ albums := some ⟨"a.json"⟩ }, some (.importing ⟨"b.json"⟩)⟩).runOn {}
          ⟨[(["b.json"], .file "[]".toUTF8)], []⟩ = ((.ok (), report), t') ∧
        t'.readText ⟨"b.json"⟩ = .ok "[]" := by
  constructor
  · have hsave : ∃ t', FileTree.run ⟨[(["b.json"], .file "[]".toUTF8)], []⟩
        ((AlbumStore.mk ⟨"a.json"⟩).save []) = (.ok (), t') := ⟨_, rfl⟩
    obtain ⟨t', hsave⟩ := hsave
    obtain ⟨-, hok, -, hother⟩ := save_and_import_touch_file_and_draft.1 _ _ _ _ _ hsave
    obtain ⟨hload, hunload⟩ := hother ⟨⟨"b.json"⟩⟩ (by decide) (by decide)
    have hrooted : Rooted ⟨[(["b.json"], .file "[]".toUTF8)], []⟩ := by
      intro l name e he
      cases l with
      | nil => rfl
      | cons x l => cases l <;> simp [lookup?, List.lookup_cons] at he
    have hloaded := hload [] rfl
    exact ⟨t', hsave, (hok rfl).1, hloaded, hunload hrooted (by decide) [] hloaded⟩
  · have himport : ∃ report t', (Invocation.session { home := some "/h" }
        ⟨{ albums := some ⟨"a.json"⟩ }, some (.importing ⟨"b.json"⟩)⟩).runOn {}
        ⟨[(["b.json"], .file "[]".toUTF8)], []⟩ = ((.ok (), report), t') := ⟨_, _, rfl⟩
    obtain ⟨report, t', himport⟩ := himport
    refine ⟨report, t', himport, ?_⟩
    rcases save_and_import_touch_file_and_draft.2 _ _ _ _ _ _ _ himport with
      ⟨hfailed, -⟩ | ⟨config, report₀, store, hconfig, hstore, -, -, hsource⟩
    · exact absurd rfl hfailed
    · cases hstore
      exact (hsource (by decide) (by decide)).trans rfl

/-- A file with the name of the draft is gone after a save, a directory in the place of the album
file leaves the draft behind, and a path through a new directory begins to lead to a file. -/
theorem save_touches_file_named_like_draft :
    ((AlbumStore.mk ⟨"a.json"⟩).place {} = ["a.json"] ∧
      ∃ t', FileTree.run ⟨[(["a.tmp"], .file "x".toUTF8)], []⟩
          ((AlbumStore.mk ⟨"a.json"⟩).save []) = (.ok (), t') ∧
        t'.fileAt? ["a.tmp"] = none) ∧
    (∃ e t', FileTree.run ⟨[(["a.json"], .directory)], []⟩
          ((AlbumStore.mk ⟨"a.json"⟩).save []) = (.error e, t') ∧
        t'.fileAt? ["a.tmp"] = some "[]".toUTF8) ∧
    ∃ e t', FileTree.run ⟨[(["b.json"], .file "[]".toUTF8)], []⟩
          (AlbumStore.mk ⟨"d/../b.json"⟩).load =
            (.error e, ⟨[(["b.json"], .file "[]".toUTF8)], []⟩) ∧
        FileTree.run ⟨[(["b.json"], .file "[]".toUTF8)], []⟩
          ((AlbumStore.mk ⟨"d/a.json"⟩).save []) = (.ok (), t') ∧
        t'.run (AlbumStore.mk ⟨"d/../b.json"⟩).load = (.ok [], t') :=
  ⟨⟨rfl, _, rfl, rfl⟩, ⟨_, _, rfl, rfl⟩, _, _, rfl, rfl, rfl⟩

end AlbumCatalog
