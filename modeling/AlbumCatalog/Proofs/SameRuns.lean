import AlbumCatalog.Proofs.FailureReports
import AlbumCatalog.Proofs.StoreHistory

/-!
# Listings on two trees

A listing is run on two trees with different configurations. If these and the options lead to one
query, and the chosen album file reads the same in both trees, the outcomes are the same.
-/

namespace AlbumCatalog

open FileTree Session

/-! ### Sessions side by side -/

namespace Session

variable {α β : Type} {s s' : Session (StateM FileTree) α}
  {f f' : α → Session (StateM FileTree) β} {t t' : FileTree} {report report' : Report}

/-- The reports have the same texts. Their events may differ. -/
structure SameTexts (report report' : Report) : Prop where
  output : report.output = report'.output
  notes : report.notes = report'.notes

/-- Each session on its tree ends in the same way, with the same texts, and leaves its tree. -/
def SameRun (s s' : Session (StateM FileTree) α) (t t' : FileTree) : Prop :=
  ∀ report report', SameTexts report report' → ∃ r after after',
    s.runOn report t = ((r, after), t) ∧ s'.runOn report' t' = ((r, after'), t') ∧
    SameTexts after after'

/-- Behind silent sessions the texts are still the same. -/
lemma SameTexts.after {r r' : Except CommandError α} {after after' : Report} {u u' : FileTree}
    (hsame : SameTexts report report') (h : s.Silent) (h' : s'.Silent)
    (hrun : s.runOn report t = ((r, after), u)) (hrun' : s'.runOn report' t' = ((r', after'), u')) :
    SameTexts after after' := by
  obtain ⟨houtput, hnotes⟩ := h report t
  obtain ⟨houtput', hnotes'⟩ := h' report' t'
  rw [hrun] at houtput hnotes
  rw [hrun'] at houtput' hnotes'
  exact ⟨houtput.trans (hsame.output.trans houtput'.symm),
    hnotes.trans (hsame.notes.trans hnotes'.symm)⟩

/-- Sessions that go on from a silent stage which succeeds on both trees, with whatever results. -/
lemma SameRun.bind_ok {a a' : α} (h : s.Silent) (h' : s'.Silent) (ha : s.Yields t (.ok a) "")
    (ha' : s'.Yields t' (.ok a') "") (hf : SameRun (f a) (f' a') t t') :
    SameRun (s >>= f) (s' >>= f') t t' := by
  intro report report' hsame
  obtain ⟨after, hrun, -⟩ := ha report
  obtain ⟨after', hrun', -⟩ := ha' report'
  rw [runOn_bind_ok hrun, runOn_bind_ok hrun']
  exact hf after after' (hsame.after h h' hrun hrun')

/-- Sessions that go on from a silent stage which has the same result on both trees. -/
lemma SameRun.stage {r : Except CommandError α} (h : s.Silent) (hr : s.Yields t r "")
    (hr' : s.Yields t' r "") (hf : ∀ a, r = .ok a → SameRun (f a) (f a) t t') :
    SameRun (s >>= f) (s >>= f) t t' := by
  cases r with
  | ok a => exact bind_ok h h hr hr' (hf a rfl)
  | error e =>
    intro report report' hsame
    obtain ⟨after, hrun, -⟩ := hr report
    obtain ⟨after', hrun', -⟩ := hr' report'
    exact ⟨_, _, _, runOn_bind_error hrun f, runOn_bind_error hrun' f,
      hsame.after h h hrun hrun'⟩

lemma SameRun.note_if {g : Unit → Session (StateM FileTree) β} (h : SameRun (g ()) (g ()) t t')
    (c : Prop) [Decidable c] (text : String) :
    SameRun (if c then note text >>= g else g ()) (if c then note text >>= g else g ()) t t' := by
  split
  · intro report report' hsame
    rw [runOn_bind_ok (runOn_note text report t), runOn_bind_ok (runOn_note text report' t')]
    exact h _ _ ⟨hsame.output, by rw [hsame.notes]⟩
  · exact h

lemma sameRun_write (p : Presentation) (json : Json) (text : String) :
    SameRun (p.write json text) (p.write json text) t t' := by
  intro report report' hsame
  unfold Presentation.write
  split
  · exact ⟨_, _, _, rfl, rfl, congrArg (· ++ _) hsame.output, hsame.notes⟩
  split
  · exact ⟨_, _, _, rfl, rfl, hsame⟩
  · exact ⟨_, _, _, rfl, rfl, congrArg (· ++ _) hsame.output, hsame.notes⟩

lemma SameRun.ofSession {s s' : Session (StateM FileTree) Unit} (h : SameRun s s' t t')
    (asJson : Bool) :
    Outcome.ofSession asJson (s'.runOn {} t').1 = Outcome.ofSession asJson (s.runOn {} t).1 := by
  obtain ⟨r, after, after', hrun, hrun', houtput, hnotes⟩ := h {} {} ⟨rfl, rfl⟩
  rw [hrun, hrun']
  cases r with
  | ok _ => simp only [Outcome.ofSession, houtput, hnotes]
  | error e => simp only [Outcome.ofSession, houtput, hnotes]

end Session

/-! ### Listings -/

section List

variable {env : Environment} {flags : Flags} {c c' : Config} {o o' : ListOptions} {t t' : FileTree}

/-- What a listing takes from its configuration and its options. -/
lemma runList_congr (halbums : c'.albumsFile = c.albumsFile) (hcolor : c'.color = c.color)
    (hfilter : o'.filter = o.filter) (hquery : ∀ f, o'.query c'.query f = o.query c.query f) :
    runList (m := StateM FileTree) env flags c' o' = runList env flags c o := by
  have hpresentation : flags.presentation env c' = flags.presentation env c := by
    rw [Flags.presentation, Flags.presentation, hcolor]
  have hstore : chooseStore env flags c' = chooseStore env flags c := by
    rw [chooseStore, chooseStore, halbums]
  simp only [runList, hpresentation, hfilter, hstore, hquery]

lemma sameRun_runList
    (halbums : ∀ store, chooseStore env flags c = .ok store →
      t'.readText store.path = t.readText store.path) :
    SameRun (runList env flags c o) (runList env flags c o) t t' := by
  refine SameRun.stage (silent_compileOption _) (yields_compileOption _ t)
    (yields_compileOption _ t') fun filter _ => ?_
  refine SameRun.stage (silent_require _ _) (yields_require _ _ t) (yields_require _ _ t')
    fun store hstore => ?_
  refine SameRun.note_if ?_ _ _
  have hchosen : chooseStore env flags c = .ok store := by
    cases hc : chooseStore env flags c with
    | error e => rw [hc] at hstore; cases hstore
    | ok _ => rw [hc] at hstore; cases hstore; rfl
  have hload := yields_loadAlbums store t'
  have hsame : (t'.run store.load).1 = (t.run store.load).1 := by
    rw [store.run_load, store.run_load, halbums store hchosen]
  rw [hsame] at hload
  refine SameRun.stage (silent_perform _ _ _) (yields_loadAlbums store t) hload fun albums _ => ?_
  refine SameRun.stage (silent_perform _ _ _) (yields_perform rfl _ _) (yields_perform rfl _ _)
    fun page _ => ?_
  exact SameRun.note_if (sameRun_write _ _ _) _ _

end List

/-- The outcomes of listings are the same on two trees if their configurations and options lead to
the same query. -/
lemma runProgram_list_congr {env : Environment} {arguments arguments' : List String} {flags : Flags}
    {o o' : ListOptions} {c c' : Config} {t t' : FileTree}
    (hi : Invocation.ofArguments env.albums arguments = .ok ⟨flags, some (.list o)⟩)
    (hi' : Invocation.ofArguments env.albums arguments' = .ok ⟨flags, some (.list o')⟩)
    (hc : t.configuration env = .ok c) (hc' : t'.configuration env = .ok c')
    (hrun : runList (m := StateM FileTree) env flags c' o' = runList env flags c o)
    (halbums : ∀ store, chooseStore env flags c = .ok store →
      t'.readText store.path = t.readText store.path) :
    (t'.runProgram env arguments').1 = (t.runProgram env arguments).1 := by
  have hyields := yields_startConfig env t
  have hyields' := yields_startConfig env t'
  rw [hc] at hyields
  rw [hc'] at hyields'
  have hsame : SameRun (Invocation.session env ⟨flags, some (.list o)⟩)
      (Invocation.session env ⟨flags, some (.list o')⟩) t t' := by
    refine SameRun.bind_ok (silent_startConfig env) (silent_startConfig env) hyields hyields' ?_
    rw [hrun]
    exact sameRun_runList halbums
  rw [runProgram_eq hi, runProgram_eq hi']
  exact hsame.ofSession flags.json

/-! ### A file that is replaced -/

namespace FileTree

variable {t t' : FileTree} {p path : Path} {l : Location}

/-- Other files are found as before when a file gets other bytes, and so are their errors. -/
lemma readText_set_of_ne {content : ByteArray} (hfile : t.lookup? l = some (.file content))
    (hne : p.placeFrom t.workingDirectory ≠ l) (content' : ByteArray) :
    (t.set l (.file content')).readText p = t.readText p := by
  have hset : (t.set l (.file content')).lookup? l = some (.file content') :=
    lookup?_set_self (by simp [hfile]) _
  have hdir : ∀ l', (t.set l (.file content')).requireDirectory l' = t.requireDirectory l' := by
    intro l'
    by_cases hl : l' = l
    · subst hl
      rw [requireDirectory, requireDirectory, hset, hfile]
    · rw [requireDirectory, requireDirectory, lookup?_set_of_ne hl]
  have hwalk : ∀ names here, (t.set l (.file content')).walk here names = t.walk here names := by
    intro names
    induction names with
    | nil => exact fun _ => rfl
    | cons name names ih =>
      intro here
      simp only [walk, step, hdir, ih]
  have hfind : (t.set l (.file content')).find p = t.find p := by
    have hstart : (t.set l (.file content')).startOf p = t.startOf p := rfl
    simp only [find, hwalk, hstart]
    cases hp : t.walk (t.startOf p) p.components with
    | error e => rfl
    | ok l' =>
      have hl : l' ≠ l := walk_place hp ▸ hne
      simp only [bind, Except.bind, lookup?_set_of_ne hl]
  rw [readText, readText, hfind]

/-- A file that holds text can be replaced. -/
lemma exists_writeText {text : String} (h : t.readText p = .ok text) (text' : String) :
    ∃ t', t.writeText p text' = .ok t' ∧ t'.readText p = .ok text' ∧
      ∀ p', p'.placeFrom t.workingDirectory ≠ p.placeFrom t.workingDirectory →
        t'.readText p' = t.readText p' := by
  obtain ⟨l, content, hl, hslash, hfile, -⟩ := readText_eq_ok.mp h
  have hdir : t.lookup? l ≠ some .directory := by simp [hfile]
  have hwrite : t.writeText p text' = .ok (t.set l (.file text'.toUTF8)) :=
    writeText_eq_ok.mpr ⟨l, hl, hslash, hdir, rfl⟩
  refine ⟨_, hwrite, ?_, fun p' hp' => readText_set_of_ne hfile (hl.place ▸ hp') _⟩
  exact (sameDirectories_writeText hwrite).keepsDirectories.readText_of_fileAt? h
    (fileAt?_writeText hwrite) (fromUTF8?_toUTF8 text')

end FileTree

lemma FileTree.configuration_of_readText {t : FileTree} {env : Environment} {path : Path}
    {text : String} {config : Config} (hpath : env.configPath = .ok path)
    (hread : t.readText path = .ok text) (hconfig : Config.ofText text = .ok config) :
    t.configuration env = .ok config := by
  rw [configuration_eq hpath, if_pos (isPresent_of_readText hread), hread]
  exact hconfig

/-- The configuration file can get other text that holds a configuration. A chosen album file that
is another file reads as before. -/
lemma FileTree.exists_reconfigured {t : FileTree} {env : Environment} {flags : Flags} {path : Path}
    {text text' : String} {config config' : Config} (hpath : env.configPath = .ok path)
    (hread : t.readText path = .ok text) (hconfig' : Config.ofText text' = .ok config')
    (hother : ∀ store, chooseStore env flags config = .ok store →
      store.place t ≠ path.placeFrom t.workingDirectory) :
    ∃ t', t.writeText path text' = .ok t' ∧ t'.configuration env = .ok config' ∧
      ∀ store, chooseStore env flags config = .ok store →
        t'.readText store.path = t.readText store.path := by
  obtain ⟨t', hwrite, hread', hsame⟩ := exists_writeText hread text'
  exact ⟨t', hwrite, configuration_of_readText hpath hread' hconfig',
    fun store hstore => hsame store.path (hother store hstore)⟩

end AlbumCatalog
