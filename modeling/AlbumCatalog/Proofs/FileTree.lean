import AlbumCatalog.File.Tree
import Mathlib.Data.List.Induction
import Mathlib.Data.Set.Insert

/-!
# Where paths lead, and what operations change

A walk that comes to its end comes to the place that the components of the path spell out, whatever
the tree. So a place stands for a file through all the changes of a tree. An operation that
succeeds is described by the place it acts on and by what it puts there.
-/

namespace AlbumCatalog

/-- The place to which a component leads. -/
def follow (here : Location) (name : String) : Location :=
  if name = "." then here else if name = ".." then here.dropLast else here ++ [name]

namespace Path

/-- The place that the path spells out, seen from a working directory. -/
def placeFrom (p : Path) (here : Location) : Location :=
  p.components.foldl follow (if p.isAbsolute then [] else here)

def lastName (p : Path) : String :=
  p.components.getLast?.getD "."

lemma components_ne_nil (p : Path) : p.components ≠ [] := by
  rw [components]
  split
  · exact List.cons_ne_nil _ _
  · rename_i h
    simpa using h

lemma dropLast_components (p : Path) : p.components.dropLast ++ [p.lastName] = p.components := by
  rw [lastName, List.getLast?_eq_some_getLast p.components_ne_nil]
  exact List.dropLast_concat_getLast p.components_ne_nil

end Path

lemma except_bind_eq_ok {ε α β : Type} {x : Except ε α} {f : α → Except ε β} {b : β} :
    (x >>= f) = .ok b ↔ ∃ a, x = .ok a ∧ f a = .ok b := by
  cases x with
  | error e =>
    constructor
    · intro h
      cases h
    · rintro ⟨a, h, -⟩
      cases h
  | ok a =>
    constructor
    · exact fun h => ⟨a, rfl, h⟩
    · rintro ⟨_, h, hb⟩
      cases h
      exact hb

namespace FileTree

variable {t t' t'' : FileTree} {p : Path} {l here : Location}

/-! ### Walks -/

lemma requireDirectory_eq_ok {u : Unit} :
    t.requireDirectory l = .ok u ↔ t.lookup? l = some .directory := by
  rw [requireDirectory]
  split <;> simp_all

lemma step_eq_ok {name : String} : t.step here name = .ok l ↔
    t.lookup? here = some .directory ∧ name.utf8ByteSize ≤ longestName ∧ l = follow here name := by
  rw [step, except_bind_eq_ok]
  simp only [requireDirectory_eq_ok, follow]
  have hdot : ".".utf8ByteSize ≤ longestName := by decide
  have hdots : "..".utf8ByteSize ≤ longestName := by decide
  constructor
  · rintro ⟨⟨⟩, hdir, h⟩
    refine ⟨hdir, ?_⟩
    split at h
    · cases h
      simp_all
    split at h
    · cases h
      simp_all
    split at h
    · cases h
    · cases h
      simp_all
  · rintro ⟨hdir, hname, rfl⟩
    refine ⟨(), hdir, ?_⟩
    split
    · rfl
    split
    · rfl
    rw [if_neg (Nat.not_lt.mpr hname)]

lemma walk_cons_eq_ok {name : String} {names : List String} :
    t.walk here (name :: names) = .ok l ↔
      ∃ there, t.step here name = .ok there ∧ t.walk there names = .ok l :=
  except_bind_eq_ok

lemma walk_append_eq_ok {names names' : List String} : t.walk here (names ++ names') = .ok l ↔
    ∃ there, t.walk here names = .ok there ∧ t.walk there names' = .ok l := by
  induction names generalizing here with
  | nil => simp [walk]
  | cons n names ih =>
    simp only [List.cons_append, walk_cons_eq_ok, ih]
    constructor
    · rintro ⟨b, hb, a, ha, h⟩
      exact ⟨a, ⟨b, hb, ha⟩, h⟩
    · rintro ⟨a, ⟨b, hb, ha⟩, h⟩
      exact ⟨b, hb, a, ha, h⟩

lemma walk_concat_eq_ok {names : List String} {name : String} :
    t.walk here (names ++ [name]) = .ok l ↔
      ∃ there, t.walk here names = .ok there ∧ t.step there name = .ok l := by
  simp only [walk_append_eq_ok, walk_cons_eq_ok]
  simp [walk]

lemma walk_place {names : List String} (h : t.walk here names = .ok l) :
    l = names.foldl follow here := by
  induction names generalizing here with
  | nil =>
    cases h
    rfl
  | cons name names ih =>
    obtain ⟨there, hstep, hwalk⟩ := walk_cons_eq_ok.mp h
    rw [ih hwalk, (step_eq_ok.mp hstep).2.2, List.foldl_cons]

/-- The path can be walked, and leads to the place. Nothing need be there. -/
structure Reaches (t : FileTree) (p : Path) (l : Location) : Prop where
  checked : checkPath p = .ok ()
  walked : t.walk (t.startOf p) p.components = .ok l

lemma Reaches.place (h : t.Reaches p l) : l = p.placeFrom t.workingDirectory :=
  walk_place h.walked

lemma find_eq_ok {e : Entry} : t.find p = .ok e ↔
    ∃ l, t.Reaches p l ∧ t.lookup? l = some e ∧ (p.endsInSlash → e = .directory) := by
  rw [find, except_bind_eq_ok]
  constructor
  · rintro ⟨⟨⟩, hcheck, h⟩
    obtain ⟨l, hwalk, h⟩ := except_bind_eq_ok.mp h
    refine ⟨l, ⟨hcheck, hwalk⟩, ?_⟩
    split at h
    · cases h
    · rename_i hl
      cases h
      exact ⟨hl, fun _ => rfl⟩
    · rename_i hl
      split at h
      · cases h
      · cases h
        exact ⟨hl, fun hslash => absurd hslash ‹_›⟩
  · rintro ⟨l, hl, he, hslash⟩
    refine ⟨(), hl.checked, ?_⟩
    rw [except_bind_eq_ok]
    refine ⟨l, hl.walked, ?_⟩
    rw [he]
    cases e with
    | directory => rfl
    | file content =>
      have hno : ¬ p.endsInSlash := fun h => by cases hslash h
      exact if_neg hno

lemma holder_eq_ok {d : Location} {name : String} : t.holder p = .ok (d, name) ↔
    checkPath p = .ok () ∧ t.walk (t.startOf p) p.components.dropLast = .ok d ∧
      t.lookup? d = some .directory ∧ name = p.lastName := by
  simp only [holder, except_bind_eq_ok, requireDirectory_eq_ok]
  constructor
  · rintro ⟨⟨⟩, hcheck, d', hwalk, ⟨⟩, hdir, h⟩
    cases h
    exact ⟨hcheck, hwalk, hdir, rfl⟩
  · rintro ⟨hcheck, hwalk, hdir, rfl⟩
    exact ⟨(), hcheck, d, hwalk, (), hdir, rfl⟩

lemma Reaches.of_holder {d : Location} {name : String} (h : t.holder p = .ok (d, name))
    (hstep : t.step d name = .ok l) : t.Reaches p l ∧ name = p.lastName := by
  obtain ⟨hcheck, hd, -, rfl⟩ := holder_eq_ok.mp h
  refine ⟨⟨hcheck, ?_⟩, rfl⟩
  rw [← p.dropLast_components]
  exact walk_concat_eq_ok.mpr ⟨d, hd, hstep⟩

/-- What an operation on the last name of a path acts on is the place to which the path leads. -/
lemma Reaches.holder (h : t.Reaches p l) :
    ∃ d, t.holder p = .ok (d, p.lastName) ∧ t.step d p.lastName = .ok l := by
  have hwalk := h.walked
  rw [← p.dropLast_components] at hwalk
  obtain ⟨d, hd, hstep⟩ := walk_concat_eq_ok.mp hwalk
  exact ⟨d, holder_eq_ok.mpr ⟨h.checked, hd, (step_eq_ok.mp hstep).1, rfl⟩, hstep⟩

/-! ### Operations -/

lemma readText_eq_ok {text : String} : t.readText p = .ok text ↔
    ∃ l content, t.Reaches p l ∧ p.endsInSlash = false ∧ t.lookup? l = some (.file content) ∧
      String.fromUTF8? content = some text := by
  rw [readText, except_bind_eq_ok]
  constructor
  · rintro ⟨e, hfind, h⟩
    obtain ⟨l, hl, he, hslash⟩ := find_eq_ok.mp hfind
    cases e with
    | directory => cases h
    | file content =>
      have hno : p.endsInSlash = false := by
        by_contra hs
        cases hslash (by simpa using hs)
      refine ⟨l, content, hl, hno, he, ?_⟩
      cases hc : String.fromUTF8? content with
      | none => simp [hc] at h
      | some s => simpa [hc] using h
  · rintro ⟨l, content, hl, hno, he, hc⟩
    refine ⟨.file content, find_eq_ok.mpr ⟨l, hl, he, by simp [hno]⟩, ?_⟩
    simp [hc]

lemma writeText_eq_ok {text : String} : t.writeText p text = .ok t' ↔
    ∃ l, t.Reaches p l ∧ p.endsInSlash = false ∧ t.lookup? l ≠ some .directory ∧
      t' = t.set l (.file text.toUTF8) := by
  rw [writeText, except_bind_eq_ok]
  constructor
  · rintro ⟨⟨d, name⟩, hholder, h⟩
    dsimp only at h
    split at h
    · cases h
    rename_i hno
    obtain ⟨l, hstep, h⟩ := except_bind_eq_ok.mp h
    refine ⟨l, (Reaches.of_holder hholder hstep).1, by simpa using hno, ?_⟩
    split at h
    · cases h
    · rename_i hdir
      cases h
      exact ⟨hdir, rfl⟩
  · rintro ⟨l, hl, hno, hdir, rfl⟩
    obtain ⟨d, hholder, hstep⟩ := hl.holder
    refine ⟨_, hholder, ?_⟩
    simp only [hno, Bool.false_eq_true, if_false, hstep, except_bind_eq_ok]
    refine ⟨l, rfl, ?_⟩
    split
    · contradiction
    · rfl

lemma moveFile_eq_ok {source target : Path} : t.moveFile source target = .ok t' ↔
    ∃ old new content, t.Reaches source old ∧ t.Reaches target new ∧
      (isDots source.lastName || isDots target.lastName) = false ∧
      (source.endsInSlash || target.endsInSlash) = false ∧
      t.lookup? old = some (.file content) ∧ t.lookup? new ≠ some .directory ∧
      t' = (t.erase old).set new (.file content) := by
  rw [moveFile]
  constructor
  · intro h
    obtain ⟨⟨d, name⟩, hholder, h⟩ := except_bind_eq_ok.mp h
    obtain ⟨⟨d', name'⟩, hholder', h⟩ := except_bind_eq_ok.mp h
    dsimp only at h
    by_cases hdots : (isDots name || isDots name') = true
    · rw [if_pos hdots] at h
      cases h
    rw [if_neg hdots] at h
    obtain ⟨old, hstep, h⟩ := except_bind_eq_ok.mp h
    obtain ⟨new, hstep', h⟩ := except_bind_eq_ok.mp h
    obtain ⟨hold, hname⟩ := Reaches.of_holder hholder hstep
    obtain ⟨hnew, hname'⟩ := Reaches.of_holder hholder' hstep'
    split at h
    · cases h
    · cases h
    rename_i content hcontent
    split at h
    · cases h
    rename_i hslash
    split at h
    · cases h
    rename_i hdir
    cases h
    rw [hname, hname', Bool.not_eq_true] at hdots
    exact ⟨old, new, content, hold, hnew, hdots, by simpa using hslash, hcontent, hdir, rfl⟩
  · rintro ⟨old, new, content, hold, hnew, hdots, hslash, hcontent, hdir, rfl⟩
    obtain ⟨d, hholder, hstep⟩ := hold.holder
    obtain ⟨d', hholder', hstep'⟩ := hnew.holder
    refine except_bind_eq_ok.mpr ⟨_, hholder, ?_⟩
    refine except_bind_eq_ok.mpr ⟨_, hholder', ?_⟩
    simp only [hdots, Bool.false_eq_true, if_false]
    refine except_bind_eq_ok.mpr ⟨_, hstep, ?_⟩
    refine except_bind_eq_ok.mpr ⟨_, hstep', ?_⟩
    simp only [hcontent, hslash, Bool.false_eq_true, if_false]

lemma makeDirectory_eq_ok (h : t.makeDirectory p = .ok t') :
    ∃ l, t.Reaches p l ∧ t.lookup? l = none ∧ t' = t.set l .directory := by
  obtain ⟨⟨d, name⟩, hholder, h⟩ := except_bind_eq_ok.mp h
  dsimp only at h
  split at h
  · cases h
  obtain ⟨l, hstep, h⟩ := except_bind_eq_ok.mp h
  refine ⟨l, (Reaches.of_holder hholder hstep).1, ?_⟩
  split at h
  · cases h
  · rename_i hnone
    cases h
    exact ⟨hnone, rfl⟩

lemma isDirectory_eq_true :
    t.isDirectory p ↔ ∃ l, t.Reaches p l ∧ t.lookup? l = some .directory := by
  have hfind : t.isDirectory p ↔ t.find p = .ok .directory := by
    rw [isDirectory]
    split <;> simp_all
  simp only [hfind, find_eq_ok, implies_true, and_true]

lemma isPresent_of_find {e : Entry} (h : t.find p = .ok e) : t.isPresent p := by
  rw [isPresent, h]

lemma makeDirectory_of_isDirectory (h : t.isDirectory p) :
    t.makeDirectory p = .error .alreadyExists := by
  obtain ⟨l, hl, hdir⟩ := isDirectory_eq_true.mp h
  obtain ⟨d, hholder, hstep⟩ := hl.holder
  simp only [makeDirectory, hholder, bind, Except.bind, hstep, hdir, ite_self]

/-! ### Changes -/

/-- The bytes of the file at a place. -/
def fileAt? (t : FileTree) (l : Location) : Option ByteArray :=
  match t.lookup? l with
  | some (.file content) => some content
  | _ => none

lemma fileAt?_eq_some {content : ByteArray} :
    t.fileAt? l = some content ↔ t.lookup? l = some (.file content) := by
  rw [fileAt?]
  split <;> simp_all

/-- At all other places, the same files hold the same bytes. -/
def SameFilesExcept (places : Set Location) (t t' : FileTree) : Prop :=
  ∀ l ∉ places, t'.fileAt? l = t.fileAt? l

lemma SameFilesExcept.trans {places : Set Location} (h : SameFilesExcept places t t')
    (h' : SameFilesExcept places t' t'') : SameFilesExcept places t t'' :=
  fun l hl => (h' l hl).trans (h l hl)

lemma SameFilesExcept.mono {places places' : Set Location} (h : SameFilesExcept places t t')
    (hle : places ⊆ places') : SameFilesExcept places' t t' :=
  fun l hl => h l fun hmem => hl (hle hmem)

/-- What leads to a place goes on leading there. -/
structure KeepsDirectories (t t' : FileTree) : Prop where
  workingDirectory : t'.workingDirectory = t.workingDirectory
  directory : ∀ l, t.lookup? l = some .directory → t'.lookup? l = some .directory

lemma KeepsDirectories.trans (h : KeepsDirectories t t') (h' : KeepsDirectories t' t'') :
    KeepsDirectories t t'' :=
  ⟨h'.workingDirectory.trans h.workingDirectory, fun l hl => h'.directory l (h.directory l hl)⟩

lemma KeepsDirectories.walk (h : KeepsDirectories t t') {names : List String}
    (hwalk : t.walk here names = .ok l) : t'.walk here names = .ok l := by
  induction names generalizing here with
  | nil => exact hwalk
  | cons name names ih =>
    obtain ⟨there, hstep, hwalk⟩ := walk_cons_eq_ok.mp hwalk
    obtain ⟨hdir, hname⟩ := step_eq_ok.mp hstep
    exact walk_cons_eq_ok.mpr ⟨there, step_eq_ok.mpr ⟨h.directory here hdir, hname⟩, ih hwalk⟩

lemma Reaches.keep (hl : t.Reaches p l) (h : KeepsDirectories t t') : t'.Reaches p l := by
  refine ⟨hl.checked, ?_⟩
  have hstart : t'.startOf p = t.startOf p := by
    rw [startOf, startOf, h.workingDirectory]
  rw [hstart]
  exact h.walk hl.walked

lemma KeepsDirectories.isDirectory (h : KeepsDirectories t t') (hp : t.isDirectory p) :
    t'.isDirectory p := by
  obtain ⟨l, hl, hdir⟩ := isDirectory_eq_true.mp hp
  exact isDirectory_eq_true.mpr ⟨l, hl.keep h, h.directory l hdir⟩

/-- A file that could be read can be read again when it has got other bytes that are text. -/
lemma KeepsDirectories.readText_of_fileAt? {text text' : String} {content : ByteArray}
    (h : KeepsDirectories t t') (hread : t.readText p = .ok text)
    (hfile : t'.fileAt? (p.placeFrom t.workingDirectory) = some content)
    (htext : String.fromUTF8? content = some text') : t'.readText p = .ok text' := by
  obtain ⟨l, -, hl, hslash, -, -⟩ := readText_eq_ok.mp hread
  rw [← hl.place] at hfile
  exact readText_eq_ok.mpr ⟨l, content, hl.keep h, hslash, fileAt?_eq_some.mp hfile, htext⟩

lemma KeepsDirectories.readText {text : String} (h : KeepsDirectories t t')
    (hfile : t'.fileAt? (p.placeFrom t.workingDirectory) = t.fileAt? (p.placeFrom t.workingDirectory))
    (hread : t.readText p = .ok text) : t'.readText p = .ok text := by
  obtain ⟨l, content, hl, -, he, htext⟩ := readText_eq_ok.mp hread
  refine h.readText_of_fileAt? hread ?_ htext
  rw [hfile, ← hl.place, fileAt?_eq_some.mpr he]

lemma lookup?_set_of_ne {l' : Location} (h : l' ≠ l) (e : Entry) :
    (t.set l e).lookup? l' = t.lookup? l' := by
  rw [lookup?_set, if_neg h]
  split
  · subst l'
    rfl
  · rfl

lemma lookup?_set_self (h : t.lookup? l ≠ some .directory) (e : Entry) :
    (t.set l e).lookup? l = some e := by
  rw [lookup?_set, if_pos rfl, if_neg]
  rintro rfl
  exact h rfl

lemma lookup?_erase_of_ne {l' : Location} (h : l' ≠ l) : (t.erase l).lookup? l' = t.lookup? l' := by
  rw [lookup?_erase, if_neg h]
  split
  · subst l'
    rfl
  · rfl

lemma lookup?_erase_self (h : t.lookup? l ≠ some .directory) : (t.erase l).lookup? l = none := by
  rw [lookup?_erase, if_pos rfl, if_neg]
  rintro rfl
  exact h rfl

/-- What is a directory in one of the trees is one in the other. -/
structure SameDirectories (t t' : FileTree) : Prop where
  workingDirectory : t'.workingDirectory = t.workingDirectory
  directory : ∀ l, t'.lookup? l = some .directory ↔ t.lookup? l = some .directory

lemma SameDirectories.trans (h : SameDirectories t t') (h' : SameDirectories t' t'') :
    SameDirectories t t'' :=
  ⟨h'.workingDirectory.trans h.workingDirectory,
    fun l => (h'.directory l).trans (h.directory l)⟩

lemma SameDirectories.keepsDirectories (h : SameDirectories t t') : KeepsDirectories t t' :=
  ⟨h.workingDirectory, fun l => (h.directory l).mpr⟩

lemma sameDirectories_set (h : t.lookup? l ≠ some .directory) (content : ByteArray) :
    SameDirectories t (t.set l (.file content)) := by
  refine ⟨rfl, fun l' => ?_⟩
  by_cases hl : l' = l
  · subst l'
    simp [lookup?_set_self h, h]
  · rw [lookup?_set_of_ne hl]

lemma sameDirectories_erase (h : t.lookup? l ≠ some .directory) :
    SameDirectories t (t.erase l) := by
  refine ⟨rfl, fun l' => ?_⟩
  by_cases hl : l' = l
  · subst l'
    simp [lookup?_erase_self h, h]
  · rw [lookup?_erase_of_ne hl]

lemma sameFilesExcept_set (l : Location) (e : Entry) : SameFilesExcept {l} t (t.set l e) := by
  intro l' hl'
  rw [fileAt?, lookup?_set_of_ne hl']
  rfl

lemma sameFilesExcept_erase (l : Location) : SameFilesExcept {l} t (t.erase l) := by
  intro l' hl'
  rw [fileAt?, lookup?_erase_of_ne hl']
  rfl

/-! ### Rooted trees -/

/-- All that is there stands in a directory. -/
def Rooted (t : FileTree) : Prop :=
  ∀ l name e, t.lookup? (l ++ [name]) = some e → t.lookup? l = some .directory

lemma Rooted.directory_above {m : List String} {e : Entry} (h : t.Rooted) (hm : m ≠ [])
    (he : t.lookup? (l ++ m) = some e) : t.lookup? l = some .directory := by
  induction m using List.reverseRecOn generalizing e with
  | nil => exact absurd rfl hm
  | append_singleton m name ih =>
    rw [← List.append_assoc] at he
    have hdir := h (l ++ m) name e he
    by_cases hnil : m = []
    · rwa [hnil, List.append_nil] at hdir
    · exact ih hnil hdir

lemma foldl_follow_eq_append {names : List String} (h : ".." ∉ names) (here : Location) :
    ∃ m, names.foldl follow here = here ++ m := by
  induction names generalizing here with
  | nil => exact ⟨[], (List.append_nil here).symm⟩
  | cons name names ih =>
    obtain ⟨hname, hnames⟩ := List.ne_and_not_mem_of_not_mem_cons h
    obtain ⟨m, hm⟩ := ih hnames (follow here name)
    rw [List.foldl_cons, hm, follow, if_neg hname.symm]
    split
    · exact ⟨m, rfl⟩
    · exact ⟨name :: m, by rw [List.append_assoc, List.singleton_append]⟩

/-- A path that never goes up leads to a file of a rooted tree, if it does so in any tree. -/
lemma Rooted.walk {names : List String} {content content' : ByteArray} (h : t.Rooted)
    (hnames : ".." ∉ names) (hfile : t.lookup? l = some (.file content))
    (hfile' : t'.lookup? l = some (.file content')) (hwalk : t'.walk here names = .ok l) :
    t.walk here names = .ok l := by
  induction names generalizing here with
  | nil => exact hwalk
  | cons name names ih =>
    obtain ⟨m, hm⟩ := foldl_follow_eq_append hnames here
    rw [← walk_place hwalk] at hm
    obtain ⟨there, hstep, hwalk⟩ := walk_cons_eq_ok.mp hwalk
    obtain ⟨hdir', hname⟩ := step_eq_ok.mp hstep
    have hne : m ≠ [] := by
      rintro rfl
      rw [List.append_nil] at hm
      rw [hm, hdir'] at hfile'
      cases hfile'
    have hdir := h.directory_above hne (hm ▸ hfile)
    exact walk_cons_eq_ok.mpr ⟨there, step_eq_ok.mpr ⟨hdir, hname⟩,
      ih (List.not_mem_of_not_mem_cons hnames) hwalk⟩

lemma Rooted.readText {text : String} (h : t.Rooted) (hpath : ".." ∉ p.components)
    (hdirectory : t'.workingDirectory = t.workingDirectory)
    (hfile : t'.fileAt? (p.placeFrom t.workingDirectory) = t.fileAt? (p.placeFrom t.workingDirectory))
    (hread : t'.readText p = .ok text) : t.readText p = .ok text := by
  obtain ⟨l, content, hl, hslash, he, hc⟩ := readText_eq_ok.mp hread
  rw [← hdirectory, ← hl.place, fileAt?_eq_some.mpr he] at hfile
  have he' := fileAt?_eq_some.mp hfile.symm
  have hstart : t'.startOf p = t.startOf p := by
    rw [startOf, startOf, hdirectory]
  refine readText_eq_ok.mpr ⟨l, content, ⟨hl.checked, ?_⟩, hslash, he', hc⟩
  rw [← hstart]
  exact h.walk hpath he' he hl.walked

/-! ### New directories -/

/-- All that is new is directories. -/
structure AddsDirectories (t t' : FileTree) : Prop where
  workingDirectory : t'.workingDirectory = t.workingDirectory
  lookup? : ∀ l, t'.lookup? l = t.lookup? l ∨ t.lookup? l = none ∧ t'.lookup? l = some .directory

lemma AddsDirectories.refl (t : FileTree) : AddsDirectories t t :=
  ⟨rfl, fun _ => .inl rfl⟩

lemma AddsDirectories.trans (h : AddsDirectories t t') (h' : AddsDirectories t' t'') :
    AddsDirectories t t'' := by
  refine ⟨h'.workingDirectory.trans h.workingDirectory, fun l => ?_⟩
  rcases h.lookup? l with hl | ⟨hnone, hdir⟩
  · rw [← hl]
    exact h'.lookup? l
  · rcases h'.lookup? l with hl' | ⟨hnone', -⟩
    · exact .inr ⟨hnone, hl'.trans hdir⟩
    · rw [hdir] at hnone'
      cases hnone'

lemma addsDirectories_set (h : t.lookup? l = none) : AddsDirectories t (t.set l .directory) := by
  refine ⟨rfl, fun l' => ?_⟩
  by_cases hl : l' = l
  · subst l'
    exact .inr ⟨h, lookup?_set_self (by simp [h]) _⟩
  · exact .inl (lookup?_set_of_ne hl _)

lemma AddsDirectories.keepsDirectories (h : AddsDirectories t t') : KeepsDirectories t t' := by
  refine ⟨h.workingDirectory, fun l hl => ?_⟩
  rcases h.lookup? l with hl' | ⟨-, hdir⟩
  · exact hl'.trans hl
  · exact hdir

lemma AddsDirectories.sameFiles (h : AddsDirectories t t') (places : Set Location) :
    SameFilesExcept places t t' := by
  intro l _
  rcases h.lookup? l with hl | ⟨hnone, hdir⟩
  · rw [fileAt?, hl]
    rfl
  · rw [fileAt?, hdir, fileAt?, hnone]

/-! ### Written and moved files -/

/-- A file can get other bytes. -/
lemma exists_writeText_of_find {content : ByteArray} (h : t.find p = .ok (.file content))
    (text : String) : ∃ t', t.writeText p text = .ok t' := by
  obtain ⟨l, hl, hfile, hslash⟩ := find_eq_ok.mp h
  have hno : p.endsInSlash = false := by
    by_contra hends
    cases hslash (by simpa using hends)
  exact ⟨_, writeText_eq_ok.mpr ⟨l, hl, hno, by simp [hfile], rfl⟩⟩

section Write

variable {text : String} (h : t.writeText p text = .ok t')
include h

lemma sameDirectories_writeText : SameDirectories t t' := by
  obtain ⟨l, -, -, hdir, rfl⟩ := writeText_eq_ok.mp h
  exact sameDirectories_set hdir _

lemma sameFiles_writeText : SameFilesExcept {p.placeFrom t.workingDirectory} t t' := by
  obtain ⟨l, hl, -, -, rfl⟩ := writeText_eq_ok.mp h
  rw [← hl.place]
  exact sameFilesExcept_set l _

/-- The same path can be written to wherever the directories are the same. -/
lemma writeText_of_sameDirectories (hsame : SameDirectories t t'') (text' : String) :
    ∃ t₁, t''.writeText p text' = .ok t₁ := by
  obtain ⟨l, hl, hslash, hdir, -⟩ := writeText_eq_ok.mp h
  have hdir' : t''.lookup? l ≠ some .directory := fun h => hdir ((hsame.directory l).mp h)
  exact ⟨_, writeText_eq_ok.mpr ⟨l, hl.keep hsame.keepsDirectories, hslash, hdir', rfl⟩⟩

lemma fileAt?_writeText : t'.fileAt? (p.placeFrom t.workingDirectory) = some text.toUTF8 := by
  obtain ⟨l, hl, -, hdir, rfl⟩ := writeText_eq_ok.mp h
  rw [← hl.place]
  exact fileAt?_eq_some.mpr (lookup?_set_self hdir _)

lemma find_writeText : t'.find p = .ok (.file text.toUTF8) := by
  have hkeep := (sameDirectories_writeText h).keepsDirectories
  obtain ⟨l, hl, hslash, hdir, rfl⟩ := writeText_eq_ok.mp h
  exact find_eq_ok.mpr ⟨l, hl.keep hkeep, lookup?_set_self hdir _, by simp [hslash]⟩

end Write

section Move

variable {source target : Path} (h : t.moveFile source target = .ok t')
include h

lemma sameDirectories_moveFile : SameDirectories t t' := by
  obtain ⟨old, new, content, -, -, -, -, hold, hnew, rfl⟩ := moveFile_eq_ok.mp h
  have herase : SameDirectories t (t.erase old) := sameDirectories_erase (by simp [hold])
  exact herase.trans (sameDirectories_set (fun hdir => hnew ((herase.directory new).mp hdir)) _)

lemma sameFiles_moveFile :
    SameFilesExcept {target.placeFrom t.workingDirectory, source.placeFrom t.workingDirectory}
      t t' := by
  obtain ⟨old, new, content, hold, hnew, -, -, -, -, rfl⟩ := moveFile_eq_ok.mp h
  rw [← hold.place, ← hnew.place]
  exact ((sameFilesExcept_erase old).mono (by simp)).trans
    ((sameFilesExcept_set new _).mono (by simp))

/-- A file can be moved in the same way wherever the directories are the same. -/
lemma moveFile_of_sameDirectories {content : ByteArray} (hsame : SameDirectories t t'')
    (hfile : t''.fileAt? (source.placeFrom t''.workingDirectory) = some content) :
    ∃ t₁, t''.moveFile source target = .ok t₁ := by
  obtain ⟨old, new, -, hold, hnew, hdots, hslash, -, hdir, -⟩ := moveFile_eq_ok.mp h
  have hold' := hold.keep hsame.keepsDirectories
  have hdir' : t''.lookup? new ≠ some .directory := fun h => hdir ((hsame.directory new).mp h)
  rw [← hold'.place] at hfile
  exact ⟨_, moveFile_eq_ok.mpr ⟨old, new, content, hold', hnew.keep hsame.keepsDirectories,
    hdots, hslash, fileAt?_eq_some.mp hfile, hdir', rfl⟩⟩

lemma fileAt?_moveFile : t'.fileAt? (target.placeFrom t.workingDirectory) =
    t.fileAt? (source.placeFrom t.workingDirectory) := by
  obtain ⟨old, new, content, hold, hnew, -, -, hcontent, hdir, rfl⟩ := moveFile_eq_ok.mp h
  rw [← hold.place, ← hnew.place, fileAt?_eq_some.mpr hcontent]
  have herase : SameDirectories t (t.erase old) := sameDirectories_erase (by simp [hcontent])
  exact fileAt?_eq_some.mpr
    (lookup?_set_self (fun hnew => hdir ((herase.directory new).mp hnew)) _)

lemma fileAt?_moveFile_source
    (hne : source.placeFrom t.workingDirectory ≠ target.placeFrom t.workingDirectory) :
    t'.fileAt? (source.placeFrom t.workingDirectory) = none := by
  obtain ⟨old, new, content, hold, hnew, -, -, hcontent, -, rfl⟩ := moveFile_eq_ok.mp h
  rw [← hold.place, ← hnew.place] at hne
  rw [← hold.place, fileAt?, lookup?_set_of_ne hne, lookup?_erase_self (by simp [hcontent])]

end Move

end FileTree

end AlbumCatalog
