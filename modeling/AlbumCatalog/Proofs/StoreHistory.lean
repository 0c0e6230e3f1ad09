import AlbumCatalog.Proofs.RootedTree

/-!
# What a store gives back over time

A history says what any number of stores were asked one after another and what they answered. A
save that succeeds puts its list into the album file, and nothing that happens to other files takes
it out again. Nor does a save that fails: it changes the bytes of the album file only where the
draft has the very place of that file, and then the file could not be read before, either.
-/

namespace AlbumCatalog

open FileTree

/-! ### Histories -/

inductive StoreRequest
  | save (albums : List Album)
  | load
  | isPresent

/-- What a store was asked and what came of it. -/
inductive StoreAnswer
  | saved (albums : List Album) (r : Except StoreError Unit)
  | loaded (r : Except StoreError (List Album))
  | present (found : Bool)

/-- The answer that a store with these albums in its file gives to a question. -/
def StoreAnswer.Tells (albums : List Album) : StoreAnswer → Prop
  | saved .. => True
  | loaded r => r = .ok albums
  | present found => found = true

namespace AlbumStore

def serve (s : AlbumStore) : StoreRequest → StateM FileTree StoreAnswer
  | .save albums => do return .saved albums (← (s.save albums).run)
  | .load => do return .loaded (← s.load.run)
  | .isPresent => do return .present (← s.isPresent)

/-- The list of the last save that succeeded, after one more answer of any store. -/
def note (s : AlbumStore) (last : Option (List Album)) :
    AlbumStore × StoreAnswer → Option (List Album)
  | (other, .saved albums (.ok ())) => if other.path = s.path then some albums else last
  | _ => last

/-- The list of the most recent save to the store that succeeded. -/
def lastSaved (s : AlbumStore) (history : List (AlbumStore × StoreAnswer)) : Option (List Album) :=
  history.foldl s.note none

/-- The other store has neither its album file nor its draft at the place of the album file. -/
def Spares (other s : AlbumStore) (t : FileTree) : Prop :=
  other.place t ≠ s.place t ∧ other.draftPlace t ≠ s.place t

/-- The albums are in the album file, and what the draft is named does not keep it from being moved
there. -/
structure Holds (s : AlbumStore) (t : FileTree) (albums : List Album) : Prop where
  text : t.readText s.path = .ok (albumsText albums)
  named : (isDots s.draftPath.lastName || isDots s.path.lastName) = false

end AlbumStore

/-- Asks stores one after another. -/
def serveAll : List (AlbumStore × StoreRequest) → StateM FileTree (List (AlbumStore × StoreAnswer))
  | [] => pure []
  | (s, q) :: rest => do
    let answer ← s.serve q
    let answers ← serveAll rest
    return (s, answer) :: answers

/-! ### Saves that fail -/

lemma FileTree.isPresent_of_readText {t : FileTree} {p : Path} {text : String}
    (h : t.readText p = .ok text) : t.isPresent p := by
  obtain ⟨l, content, hl, hslash, hfile, -⟩ := readText_eq_ok.mp h
  exact isPresent_of_find (find_eq_ok.mpr ⟨l, hl, hfile, by simp [hslash]⟩)

namespace AlbumStore

/-- The draft stands in the place of the album file and cannot be moved. -/
structure Stuck (s : AlbumStore) (albums : List Album) (t : FileTree) : Prop where
  place : s.draftPlace t = s.place t
  reaches : t.Reaches s.draftPath (s.draftPlace t)
  endsInSlash : s.draftPath.endsInSlash = false
  file : t.fileAt? (s.draftPlace t) = some (albumsText albums).toUTF8
  unmoved : ∃ cause, t.moveFile s.draftPath s.path = .error cause

variable {s : AlbumStore} {albums : List Album} {t : FileTree} {text : String}

lemma Stuck.readText_ne (h : s.Stuck albums t)
    (hnamed : (isDots s.draftPath.lastName || isDots s.path.lastName) = false) :
    t.readText s.path ≠ .ok text := by
  intro hread
  obtain ⟨l, content, hl, hslash, hfile, -⟩ := readText_eq_ok.mp hread
  obtain ⟨cause, hmove⟩ := h.unmoved
  have hmoved := moveFile_eq_ok.mpr ⟨_, l, _, h.reaches, hl, hnamed, by simp [h.endsInSlash, hslash],
    fileAt?_eq_some.mp h.file, by simp [hfile], rfl⟩
  rw [hmoved] at hmove
  cases hmove

lemma Stuck.readText_ne_of_rooted (h : s.Stuck albums t) (hrooted : t.Rooted) :
    t.readText s.path ≠ .ok text := by
  intro hread
  obtain ⟨l, content, hl, -, hfile, -⟩ := readText_eq_ok.mp hread
  obtain ⟨-, -, -, hdraft⟩ := hrooted.exists_holder h.reaches (by simp [fileAt?_eq_some.mp h.file])
  obtain ⟨-, -, -, hname⟩ := hrooted.exists_holder hl (by simp [hfile])
  exact h.readText_ne (by rw [hdraft, hname]; rfl) hread

end AlbumStore

namespace SaveRun

variable {s : AlbumStore} {albums : List Album} {t t' : FileTree} {r : Except StoreError Unit}
  {text : String}

/-- A draft that could not be moved has been left in the place of the album file. -/
lemma stuck_of_unmoved {t₀ : FileTree} {cause : FileError} (hdirs : AddsDirectories t t₀)
    (hwrite : t₀.writeText s.draftPath (albumsText albums) = .ok t')
    (hmove : t'.moveFile s.draftPath s.path = .error cause)
    (hplace : s.draftPlace t = s.place t) : s.Stuck albums t' := by
  have hdirectory := workingDirectory_draft hdirs hwrite
  have hdraft : s.draftPlace t' = s.draftPlace t := s.draftPlace_eq hdirectory
  have hfile : t'.fileAt? (s.draftPlace t) = some (albumsText albums).toUTF8 :=
    fileAt?_draft hdirs hwrite
  obtain ⟨l, hl, hslash, -⟩ := writeText_eq_ok.mp hwrite
  have hl' : t'.Reaches s.draftPath l :=
    hl.keep (sameDirectories_writeText hwrite).keepsDirectories
  have hplace' : l = s.draftPlace t' := hl'.place
  rw [hplace'] at hl'
  refine ⟨?_, hl', hslash, ?_, cause, hmove⟩
  · rw [hdraft, hplace, s.place_eq hdirectory]
  · rw [hdraft]
    exact hfile

lemma unchanged_or_stuck (h : SaveRun s albums t r t') (hr : r ≠ .ok ()) :
    t'.fileAt? (s.place t) = t.fileAt? (s.place t) ∨ s.Stuck albums t' := by
  by_cases hplace : s.draftPlace t = s.place t
  · cases h with
    | undrafted e hdirs =>
      have hfiles : SameFilesExcept ∅ t t' := hdirs.sameFiles ∅
      exact .inl (hfiles (s.place t) (Set.notMem_empty _))
    | unmoved e hdirs hwrite hmove => exact .inr (stuck_of_unmoved hdirs hwrite hmove hplace)
    | moved hdirs hparent hwrite hmove => exact absurd rfl hr
  · exact .inl (h.sameFiles_of_failure hr (s.place t) (Ne.symm hplace))

/-- A file that could be read can be read in the same way after a save that failed, unless that has
left its draft in the place of the file. -/
lemma readText_of_failure (h : SaveRun s albums t r t') (hr : r ≠ .ok ())
    (hstuck : s.Stuck albums t' → ∀ text, t'.readText s.path ≠ .ok text)
    (hread : t.readText s.path = .ok text) : t'.readText s.path = .ok text := by
  have hkeep := h.keepsDirectories
  rcases h.unchanged_or_stuck hr with hfile | hs
  · exact hkeep.readText hfile hread
  · have hfile := hs.file
    rw [hs.place, s.place_eq hkeep.workingDirectory] at hfile
    exact absurd (hkeep.readText_of_fileAt? hread hfile (fromUTF8?_toUTF8 _)) (hstuck hs _)

/-- In rooted trees a save that fails does not make a file readable, either. -/
lemma readText_iff_of_failure (h : SaveRun s albums t r t') (hr : r ≠ .ok ())
    (hrooted : t.Rooted) (hrooted' : t'.Rooted) (hpath : ".." ∉ s.path.components) :
    t'.readText s.path = .ok text ↔ t.readText s.path = .ok text := by
  have hstuck : s.Stuck albums t' → ∀ text, t'.readText s.path ≠ .ok text :=
    fun hs _ => hs.readText_ne_of_rooted hrooted'
  refine ⟨fun hread => ?_, h.readText_of_failure hr hstuck⟩
  rcases h.unchanged_or_stuck hr with hfile | hs
  · exact hrooted.readText hpath h.keepsDirectories.workingDirectory hfile hread
  · exact absurd hread (hstuck hs text)

lemma holds (h : SaveRun s albums t (.ok ()) t') : s.Holds t' albums := by
  refine ⟨h.readText, ?_⟩
  cases h with
  | moved hdirs hparent hwrite hmove =>
    obtain ⟨-, -, -, -, -, hnamed, -⟩ := moveFile_eq_ok.mp hmove
    exact hnamed

end SaveRun

/-! ### Steps -/

/-- What a store answers on a tree, and the tree that it leaves. -/
inductive Served (s : AlbumStore) (t : FileTree) : StoreAnswer → FileTree → Prop
  | saved {albums : List Album} {r : Except StoreError Unit} {t' : FileTree}
      (hsave : t.run (s.save albums) = (r, t')) : Served s t (.saved albums r) t'
  | loaded : Served s t (.loaded (t.run s.load).1) t
  | present : Served s t (.present (t.isPresent s.path)) t

namespace AlbumStore

variable {s other : AlbumStore} {albums : List Album} {t t' : FileTree} {answer : StoreAnswer}

lemma served {q : StoreRequest} (h : StateT.run (s.serve q) t = (answer, t')) :
    Served s t answer t' := by
  cases q with
  | save albums =>
    rcases hsave : t.run (s.save albums) with ⟨r, t₁⟩
    have hserve : StateT.run (s.serve (.save albums)) t = (.saved albums r, t₁) := by
      change (StoreAnswer.saved albums (t.run (s.save albums)).1, (t.run (s.save albums)).2) = _
      rw [hsave]
    rw [hserve] at h
    cases h
    exact .saved hsave
  | load =>
    have hserve : StateT.run (s.serve .load) t = (.loaded (t.run s.load).1, t) := by
      change (StoreAnswer.loaded (t.run s.load).1, (t.run s.load).2) = _
      rw [run_load]
    rw [hserve] at h
    cases h
    exact .loaded
  | isPresent =>
    cases h
    exact .present

lemma Spares.of_workingDirectory (h : other.Spares s t)
    (hdirectory : t'.workingDirectory = t.workingDirectory) : other.Spares s t' := by
  rw [Spares, other.place_eq hdirectory, other.draftPlace_eq hdirectory, s.place_eq hdirectory]
  exact h

lemma Holds.run_load (h : s.Holds t albums) : t.run s.load = (.ok albums, t) :=
  run_load_eq_ok.mpr ⟨rfl, _, h.text, albumsOfText_albumsText albums⟩

/-- Where the albums are in the file, a load gives them and the file is present. -/
lemma Holds.tells (h : s.Holds t albums) (hserved : Served s t answer t') :
    answer.Tells albums := by
  cases hserved with
  | saved hsave => trivial
  | loaded =>
    rw [h.run_load]
    rfl
  | present => exact isPresent_of_readText h.text

/-- A save elsewhere does not touch the albums. -/
lemma Holds.of_spares {albums' : List Album} {r : Except StoreError Unit} (h : s.Holds t albums)
    (hspares : other.Spares s t) (hrun : SaveRun other albums' t r t') : s.Holds t' albums := by
  have hfile : t'.fileAt? (s.place t) = t.fileAt? (s.place t) :=
    hrun.sameFiles (s.place t) (by simp [hspares.1.symm, hspares.2.symm])
  exact ⟨hrun.keepsDirectories.readText hfile h.text, h.named⟩

/-- A save that fails does not touch them either. -/
lemma Holds.of_failure {albums' : List Album} {r : Except StoreError Unit} (h : s.Holds t albums)
    (hrun : SaveRun s albums' t r t') (hr : r ≠ .ok ()) : s.Holds t' albums :=
  ⟨hrun.readText_of_failure hr (fun hstuck _ => hstuck.readText_ne h.named) h.text, h.named⟩

/-- The album file has the list of the last save that succeeded, if there was one. -/
def Recalls (s : AlbumStore) (t : FileTree) (last : Option (List Album)) : Prop :=
  ∀ albums ∈ last, s.Holds t albums

/-- One step of any store. -/
lemma Recalls.step {last : Option (List Album)} (h : s.Recalls t last)
    (hserved : Served other t answer t') (hother : other ≠ s → other.Spares s t) :
    s.Recalls t' (s.note last (other, answer)) := by
  cases hserved with
  | loaded => exact h
  | present => exact h
  | @saved albums r t' hsave =>
    have hrun := saveRun hsave
    by_cases hstore : other = s
    · subst hstore
      match r, hrun with
      | .ok (), hrun =>
        intro albums' hlast
        rw [note, if_pos rfl, Option.mem_some] at hlast
        exact hlast ▸ hrun.holds
      | .error e, hrun => exact fun albums' hlast => (h albums' hlast).of_failure hrun (by simp)
    · have hpath : other.path ≠ s.path := fun heq => hstore (congrArg AlbumStore.mk heq)
      have hnote : s.note last (other, .saved albums r) = last := by
        match r with
        | .ok () => exact if_neg hpath
        | .error e => rfl
      rw [hnote]
      exact fun albums' hlast => (h albums' hlast).of_spares (hother hstore) hrun

end AlbumStore

namespace Served

variable {s : AlbumStore} {t t' : FileTree} {answer : StoreAnswer}

lemma workingDirectory (h : Served s t answer t') : t'.workingDirectory = t.workingDirectory := by
  cases h with
  | saved hsave => exact (AlbumStore.saveRun hsave).keepsDirectories.workingDirectory
  | loaded => rfl
  | present => rfl

lemma rooted (h : Served s t answer t') (ht : t.Rooted) : t'.Rooted := by
  cases h with
  | saved hsave => exact (s.keepsRooted_save _).rooted ht hsave
  | loaded => exact ht
  | present => exact ht

end Served

/-! ### Runs -/

section Runs

variable {s : AlbumStore} {t t' : FileTree} {requests : List (AlbumStore × StoreRequest)}
  {history : List (AlbumStore × StoreAnswer)}

lemma serveAll_cons {q : StoreRequest}
    (h : StateT.run (serveAll ((s, q) :: requests)) t = (history, t')) :
    ∃ answer t₁ answers, Served s t answer t₁ ∧
      StateT.run (serveAll requests) t₁ = (answers, t') ∧ history = (s, answer) :: answers := by
  rcases hserve : StateT.run (s.serve q) t with ⟨answer, t₁⟩
  rcases hrest : StateT.run (serveAll requests) t₁ with ⟨answers, t₂⟩
  simp only [serveAll, StateT.run_bind, hserve] at h
  change (fun p : List (AlbumStore × StoreAnswer) × FileTree => ((s, answer) :: p.1, p.2))
    (StateT.run (serveAll requests) t₁) = _ at h
  rw [hrest] at h
  cases h
  exact ⟨answer, t₁, answers, AlbumStore.served hserve, hrest, rfl⟩

lemma serveAll_rooted (h : StateT.run (serveAll requests) t = (history, t')) (ht : t.Rooted) :
    t'.Rooted := by
  induction requests generalizing t history with
  | nil =>
    cases h
    exact ht
  | cons request requests ih =>
    obtain ⟨answer, t₁, answers, hserved, hrest, -⟩ := serveAll_cons h
    exact ih hrest (hserved.rooted ht)

/-- Every answer of the store is in line with what was saved before it. -/
lemma serveAll_tells {last : Option (List Album)}
    (h : StateT.run (serveAll requests) t = (history, t'))
    (hothers : ∀ request ∈ requests, request.1 ≠ s → request.1.Spares s t) (hlast : s.Recalls t last)
    {before after : List (AlbumStore × StoreAnswer)} {answer : StoreAnswer} {albums : List Album}
    (hsplit : history = before ++ (s, answer) :: after)
    (hsaved : before.foldl s.note last = some albums) : answer.Tells albums := by
  induction requests generalizing t history last before with
  | nil =>
    cases h
    simp at hsplit
  | cons request requests ih =>
    obtain ⟨answer₁, t₁, answers, hserved, hrest, rfl⟩ := serveAll_cons h
    cases before with
    | nil =>
      obtain ⟨⟨hstore, rfl⟩, -⟩ : (request.1 = s ∧ answer₁ = answer) ∧ answers = after := by
        simpa using hsplit
      rw [hstore] at hserved
      exact (hlast albums hsaved).tells hserved
    | cons first before =>
      obtain ⟨rfl, htail⟩ : (request.1, answer₁) = first ∧
          answers = before ++ (s, answer) :: after := by
        simpa using hsplit
      refine ih hrest (fun other hmem hne => ?_)
        (hlast.step hserved (hothers request List.mem_cons_self)) htail hsaved
      exact (hothers other (List.mem_cons_of_mem _ hmem) hne).of_workingDirectory
        hserved.workingDirectory

end Runs

/-! ### What is given back -/

/-- After a save that succeeded, every answer of the store is that of the last such save, whatever
other stores do and however many saves have failed since. A save that fails at any time leaves it
as it was whether there is a list to load, and which. -/
theorem store_gives_back_last_save (s : AlbumStore) (requests : List (AlbumStore × StoreRequest))
    (t t' : FileTree) (history : List (AlbumStore × StoreAnswer))
    (h : StateT.run (serveAll requests) t = (history, t'))
    (hothers : ∀ request ∈ requests, request.1 ≠ s → request.1.Spares s t) :
    (∀ before answer after albums, history = before ++ (s, answer) :: after →
      s.lastSaved before = some albums → answer.Tells albums) ∧
    (t.Rooted → ".." ∉ s.path.components →
      ∀ albums e t'', t'.run (s.save albums) = (.error e, t'') →
        ∀ found, t''.run s.load = (.ok found, t'') ↔ t'.run s.load = (.ok found, t')) := by
  constructor
  · intro before answer after albums hsplit hsaved
    exact serveAll_tells h hothers (fun _ hnone => by cases hnone) hsplit hsaved
  · intro hrooted hpath albums e t'' hsave found
    have hrun := AlbumStore.saveRun hsave
    have hrooted' : t'.Rooted := serveAll_rooted h hrooted
    have hrooted'' : t''.Rooted := (s.keepsRooted_save albums).rooted hrooted' hsave
    have hread : ∀ text, t''.readText s.path = .ok text ↔ t'.readText s.path = .ok text :=
      fun _ => hrun.readText_iff_of_failure (by simp) hrooted' hrooted'' hpath
    simp only [AlbumStore.run_load_eq_ok, hread, true_and]

/-- A directory that another store makes in the place of the draft: from then on saves fail, and
the list that was saved before stays. -/
theorem directory_in_place_of_draft_leaves_albums :
    ∃ e r e' t' t'',
      StateT.run (serveAll [(⟨⟨"a.json"⟩⟩, .save []), (⟨⟨"a.tmp/b.json"⟩⟩, .save []),
          (⟨⟨"a.json"⟩⟩, .save [⟨⟨1, by decide⟩, "x", "", "", "o",
            ⟨⟨2024, 2, 29, by decide⟩, 0, 0, by decide⟩, [], [], []⟩]),
          (⟨⟨"a.json"⟩⟩, .load)]) {} =
        ([(⟨⟨"a.json"⟩⟩, .saved [] (.ok ())), (⟨⟨"a.tmp/b.json"⟩⟩, .saved [] (.ok ())),
          (⟨⟨"a.json"⟩⟩, .saved [⟨⟨1, by decide⟩, "x", "", "", "o",
            ⟨⟨2024, 2, 29, by decide⟩, 0, 0, by decide⟩, [], [], []⟩] (.error e)),
          (⟨⟨"a.json"⟩⟩, .loaded r)], t') ∧
      t'.run ((AlbumStore.mk ⟨"a.json"⟩).save []) = (.error e', t'') ∧
      r = .ok [] ∧ t''.run (AlbumStore.mk ⟨"a.json"⟩).load = (.ok [], t'') := by
  have hrun : ∃ e r e' t' t'',
      StateT.run (serveAll [(⟨⟨"a.json"⟩⟩, .save []), (⟨⟨"a.tmp/b.json"⟩⟩, .save []),
          (⟨⟨"a.json"⟩⟩, .save [⟨⟨1, by decide⟩, "x", "", "", "o",
            ⟨⟨2024, 2, 29, by decide⟩, 0, 0, by decide⟩, [], [], []⟩]),
          (⟨⟨"a.json"⟩⟩, .load)]) {} =
        ([(⟨⟨"a.json"⟩⟩, .saved [] (.ok ())), (⟨⟨"a.tmp/b.json"⟩⟩, .saved [] (.ok ())),
          (⟨⟨"a.json"⟩⟩, .saved [⟨⟨1, by decide⟩, "x", "", "", "o",
            ⟨⟨2024, 2, 29, by decide⟩, 0, 0, by decide⟩, [], [], []⟩] (.error e)),
          (⟨⟨"a.json"⟩⟩, .loaded r)], t') ∧
      t'.run ((AlbumStore.mk ⟨"a.json"⟩).save []) = (.error e', t'') ∧
      t'.run (AlbumStore.mk ⟨"a.json"⟩).load = (.ok [], t') := ⟨_, _, _, _, _, rfl, rfl, rfl⟩
  obtain ⟨e, r, e', t', t'', hrun, hsave, hload⟩ := hrun
  have hrooted : Rooted {} := by
    intro l name e he
    cases l <;> simp [lookup?] at he
  have hspares : (AlbumStore.mk ⟨"a.tmp/b.json"⟩).Spares ⟨⟨"a.json"⟩⟩ {} := by
    constructor <;> decide
  obtain ⟨htells, hfails⟩ := store_gives_back_last_save ⟨⟨"a.json"⟩⟩ _ _ _ _ hrun (by
    simp only [List.forall_mem_cons]
    exact ⟨fun hne => absurd rfl hne, fun _ => hspares, fun hne => absurd rfl hne,
      fun hne => absurd rfl hne, fun _ hmem => by cases hmem⟩)
  have hloaded : r = .ok [] := htells [_, _, _] (.loaded r) [] [] rfl rfl
  exact ⟨e, r, e', t', t'', hrun, hsave, hloaded,
    (hfails hrooted (by decide) _ _ _ hsave []).mpr hload⟩

end AlbumCatalog
