import AlbumCatalog.Proofs.Saving

/-!
# Rooted trees stay rooted

Every operation changes what stands in a directory that is there, so it leads from a rooted tree to
a rooted tree, and so does every program that is made of operations.
-/

namespace AlbumCatalog

namespace FileTree

variable {t t' : FileTree} {p : Path} {l : Location}

/-! ### Operations -/

/-- In a rooted tree, what a path leads to is a directory or stands in one under the last name of
the path. -/
lemma Rooted.exists_holder (h : t.Rooted) (hl : t.Reaches p l) (hne : t.lookup? l ≠ some .directory) :
    ∃ d, l = d ++ [p.lastName] ∧ t.lookup? d = some .directory ∧ isDots p.lastName = false := by
  obtain ⟨d, -, hstep⟩ := hl.holder
  obtain ⟨hdir, -, rfl⟩ := step_eq_ok.mp hstep
  rw [follow] at hne ⊢
  by_cases hdot : p.lastName = "."
  · rw [if_pos hdot] at hne
    exact absurd hdir hne
  rw [if_neg hdot] at hne ⊢
  by_cases hdots : p.lastName = ".."
  · rw [if_pos hdots] at hne
    rcases List.eq_nil_or_concat d with rfl | ⟨d', name, rfl⟩
    · exact absurd (lookup?_root t) hne
    · rw [List.concat_eq_append, List.dropLast_concat] at hne
      rw [List.concat_eq_append] at hdir
      exact absurd (h d' name _ hdir) hne
  · rw [if_neg hdots]
    exact ⟨d, rfl, hdir, by simp [isDots, hdot, hdots]⟩

lemma Rooted.set {d : Location} {name : String} {e : Entry} (h : t.Rooted)
    (hdir : t.lookup? d = some .directory)
    (hfree : t.lookup? (d ++ [name]) = some .directory → e = .directory) :
    (t.set (d ++ [name]) e).Rooted := by
  intro l' name' e' he'
  by_cases hl : l' ++ [name'] = d ++ [name]
  · obtain ⟨rfl, -⟩ := List.append_inj' hl rfl
    rwa [lookup?_set_of_ne (by simp)]
  rw [lookup?_set_of_ne hl] at he'
  have hdir' := h l' name' e' he'
  by_cases hl' : l' = d ++ [name]
  · subst l'
    rw [lookup?_set, if_neg (by simp), if_pos rfl, hfree hdir']
  · rwa [lookup?_set_of_ne hl']

lemma Rooted.erase {content : ByteArray} (h : t.Rooted) (hfile : t.lookup? l = some (.file content)) :
    (t.erase l).Rooted := by
  intro l' name e he
  by_cases hl : l' ++ [name] = l
  · rw [hl, lookup?_erase_self (by simp [hfile])] at he
    cases he
  rw [lookup?_erase_of_ne hl] at he
  have hdir := h l' name e he
  rw [lookup?_erase_of_ne, hdir]
  rintro rfl
  rw [hdir] at hfile
  cases hfile

lemma Rooted.makeDirectory (h : t.Rooted) (hmake : t.makeDirectory p = .ok t') : t'.Rooted := by
  obtain ⟨l, hl, hnone, rfl⟩ := makeDirectory_eq_ok hmake
  obtain ⟨d, rfl, hdir, -⟩ := h.exists_holder hl (by simp [hnone])
  exact h.set hdir fun _ => rfl

lemma Rooted.writeText {text : String} (h : t.Rooted) (hwrite : t.writeText p text = .ok t') :
    t'.Rooted := by
  obtain ⟨l, hl, -, hne, rfl⟩ := writeText_eq_ok.mp hwrite
  obtain ⟨d, rfl, hdir, -⟩ := h.exists_holder hl hne
  exact h.set hdir fun hdir' => absurd hdir' hne

lemma Rooted.moveFile {source target : Path} (h : t.Rooted)
    (hmove : t.moveFile source target = .ok t') : t'.Rooted := by
  obtain ⟨old, new, content, -, hnew, -, -, hfile, hne, rfl⟩ := moveFile_eq_ok.mp hmove
  obtain ⟨d, rfl, hdir, -⟩ := h.exists_holder hnew hne
  have hsame : SameDirectories t (t.erase old) := sameDirectories_erase (by simp [hfile])
  exact (h.erase hfile).set ((hsame.directory d).mpr hdir)
    fun hdir' => absurd ((hsame.directory _).mp hdir') hne

/-! ### Programs -/

section Programs

variable {α β ε ε' : Type}

/-- The program leads from rooted trees to rooted trees, whether it succeeds or fails. -/
def KeepsRooted (x : ExceptT ε (StateM FileTree) α) : Prop :=
  ∀ t : FileTree, t.Rooted → (t.run x).2.Rooted

lemma KeepsRooted.rooted {x : ExceptT ε (StateM FileTree) α} {r : Except ε α} (h : KeepsRooted x)
    (ht : t.Rooted) (hrun : t.run x = (r, t')) : t'.Rooted := by
  have hkeep := h t ht
  rwa [hrun] at hkeep

lemma keepsRooted_change {f : FileTree → Except FileError FileTree}
    (h : ∀ t t' : FileTree, t.Rooted → f t = .ok t' → t'.Rooted) : KeepsRooted (change f) := by
  intro t ht
  cases hf : f t with
  | ok t' =>
    rw [run_change_ok hf]
    exact h t t' ht hf
  | error e =>
    rw [run_change_error hf]
    exact ht

variable {x : ExceptT ε (StateM FileTree) α}

lemma KeepsRooted.bind {f : α → ExceptT ε (StateM FileTree) β} (h : KeepsRooted x)
    (hf : ∀ a, KeepsRooted (f a)) : KeepsRooted (x >>= f) := by
  intro t ht
  rcases hrun : t.run x with ⟨r, t'⟩
  have ht' := h.rooted ht hrun
  cases r with
  | ok a =>
    rw [run_bind_ok hrun]
    exact hf a t' ht'
  | error e =>
    rw [run_bind_error hrun]
    exact ht'

lemma KeepsRooted.tryCatch {handler : ε → ExceptT ε (StateM FileTree) α} (h : KeepsRooted x)
    (hhandler : ∀ e, KeepsRooted (handler e)) : KeepsRooted (tryCatch x handler) := by
  intro t ht
  rcases hrun : t.run x with ⟨r, t'⟩
  have ht' := h.rooted ht hrun
  cases r with
  | ok a =>
    rw [run_tryCatch_ok hrun]
    exact ht'
  | error e =>
    rw [run_tryCatch_error hrun]
    exact hhandler e t' ht'

lemma KeepsRooted.adapt (h : KeepsRooted x) (f : ε → ε') : KeepsRooted (x.adapt f) :=
  fun t ht => h t ht

end Programs

lemma keepsRooted_makeDirectory (p : Path) :
    KeepsRooted (FileSystem.makeDirectory (m := StateM FileTree) p) :=
  keepsRooted_change fun _ _ => Rooted.makeDirectory

lemma keepsRooted_unlessDirectory (p : Path) (e : FileError) :
    KeepsRooted (FileSystem.unlessDirectory (m := StateM FileTree) p e) := by
  intro t ht
  rwa [run_unlessDirectory]

lemma keepsRooted_ensureDirectory (p : Path) :
    KeepsRooted (FileSystem.ensureDirectory (m := StateM FileTree) p) := by
  rw [FileSystem.ensureDirectory]
  split
  · exact fun t ht => ht
  · exact (keepsRooted_makeDirectory p).tryCatch (keepsRooted_unlessDirectory p)

lemma keepsRooted_makeDirectoriesFrom (further : List Path) (p : Path) :
    KeepsRooted (FileSystem.makeDirectoriesFrom (m := StateM FileTree) further p) := by
  induction further generalizing p with
  | nil => exact keepsRooted_ensureDirectory p
  | cons parent further ih =>
    rw [FileSystem.makeDirectoriesFrom]
    split
    · exact fun t ht => ht
    refine (keepsRooted_makeDirectory p).tryCatch fun e => ?_
    split
    · exact (ih parent).bind fun _ => keepsRooted_ensureDirectory p
    · exact keepsRooted_unlessDirectory p _

end FileTree

open FileTree

lemma AlbumStore.keepsRooted_save (s : AlbumStore) (albums : List Album) :
    KeepsRooted (s.save (m := StateM FileTree) albums) := by
  rw [save_eq]
  refine KeepsRooted.bind ?_ fun _ => KeepsRooted.bind ?_ fun _ => ?_
  · rw [prepare]
    split
    · exact (keepsRooted_makeDirectoriesFrom _ _).adapt _
    · exact fun t ht => ht
  · exact (keepsRooted_change fun _ _ => Rooted.writeText).adapt _
  · exact (keepsRooted_change fun _ _ => Rooted.moveFile).adapt _

end AlbumCatalog
