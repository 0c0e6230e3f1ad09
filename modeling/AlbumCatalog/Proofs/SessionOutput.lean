import AlbumCatalog.Command.Program
import AlbumCatalog.Proofs.Sessions

/-!
# What sessions write

`Yields` says of a session what comes out of it on a tree that it leaves as it is: its result and
what it adds to the output. The stages before the last one add nothing, so a session that fails
has written nothing, and one that succeeds has written what its last stage writes.
-/

namespace AlbumCatalog

open FileTree Session

/-! ### Results and outputs -/

section Bind

variable {ε ε' α β : Type} {x : Except ε α}

lemma bind_of_eq_ok {a : α} (h : x = .ok a) (cause : ε → ε') (f : α → Except ε' β) :
    x.mapError cause >>= f = f a := by
  rw [h]
  rfl

end Bind

namespace Session

variable {α β ε : Type}

/-- The session ends in this way on the tree and leaves the tree as it is. -/
def Yields (s : Session (StateM FileTree) α) (t : FileTree) (r : Except CommandError α)
    (output : String) : Prop :=
  ∀ report, ∃ report', s.runOn report t = ((r, report'), t) ∧
    report'.output = report.output ++ output

variable {s : Session (StateM FileTree) α} {f : α → Session (StateM FileTree) β} {t : FileTree}

/-- A stage that writes nothing and succeeds leaves the end to the stages behind it. -/
lemma Yields.bind_ok {a : α} {r : Except CommandError β} {output : String}
    (h : s.Yields t (.ok a) "") (hf : (f a).Yields t r output) : (s >>= f).Yields t r output := by
  intro report
  obtain ⟨report', hrun, hsame⟩ := h report
  obtain ⟨report'', hrest, houtput⟩ := hf report'
  refine ⟨report'', (runOn_bind_ok hrun f).trans hrest, ?_⟩
  rw [houtput, hsame, String.append_empty]

lemma Yields.bind_error {e : CommandError} (h : s.Yields t (.error e) "") :
    (s >>= f).Yields t (.error e) "" := by
  intro report
  obtain ⟨report', hrun, hsame⟩ := h report
  exact ⟨report', runOn_bind_error hrun f, hsame⟩

lemma yields_pure (a : α) (t : FileTree) :
    Yields (pure a : Session (StateM FileTree) α) t (.ok a) "" :=
  fun report => ⟨report, rfl, String.append_empty.symm⟩

lemma yields_require (cause : ε → CommandError) (r : Except ε α) (t : FileTree) :
    (require cause r).Yields t (r.mapError cause) "" :=
  fun report => ⟨report, rfl, String.append_empty.symm⟩

lemma yields_perform {step : ExceptT ε (StateM FileTree) α} {r : Except ε α}
    (h : t.run step = (r, t)) (cause : ε → CommandError) (events : Except ε α → List Event) :
    (perform cause events step).Yields t (r.mapError cause) "" := by
  intro report
  rw [runOn_perform, h]
  exact ⟨_, rfl, String.append_empty.symm⟩

/-- A note on the way, or none, does not change how a session ends. -/
lemma Yields.note_if {g : Unit → Session (StateM FileTree) β} {r : Except CommandError β}
    {output : String} (h : (g ()).Yields t r output) (c : Prop) [Decidable c] (text : String) :
    Yields (if c then note text >>= g else g ()) t r output := by
  split
  · exact bind_ok (fun report => ⟨_, rfl, String.append_empty.symm⟩) h
  · exact h

/-- The session ends as a computation does, and writes a text for its value. -/
def Answers {γ : Type} (s : Session (StateM FileTree) Unit) (t : FileTree)
    (r : Except CommandError γ) (text : γ → String) : Prop :=
  s.Yields t (r.map fun _ => ())
    (match r with
    | .ok c => text c
    | .error _ => "")

/-- A session that begins with a stage answers as the computation that begins with its result. -/
lemma Answers.stage {γ : Type} {f : α → Session (StateM FileTree) Unit} {text : γ → String}
    {r : Except CommandError α} {g : α → Except CommandError γ} (h : s.Yields t r "")
    (hf : ∀ a, (f a).Answers t (g a) text) : Answers (s >>= f) t (r >>= g) text := by
  cases r with
  | error e => exact h.bind_error
  | ok a => exact h.bind_ok (hf a)

end Session

lemma Presentation.yields_write (p : Presentation) (json : Json) (text : String) (t : FileTree) :
    (p.write (m := StateM FileTree) json text).Yields t (.ok ()) (p.shown json text) :=
  fun report => ⟨_, runOn_write p json text report t, rfl⟩

/-! ### The stages of commands -/

/-- The configuration of a session: of the file that the environment leads to, or the empty one if
there is no such file. -/
def FileTree.configuration (t : FileTree) (env : Environment) : Except ConfigError Config := do
  let path ← env.configPath
  if t.isPresent path then
    let text ← (t.readText path).mapError .read
    Config.ofText text
  else
    .ok {}

lemma FileTree.configuration_eq {env : Environment} {path : Path}
    (hpath : env.configPath = .ok path) (t : FileTree) : t.configuration env =
      if t.isPresent path then (t.readText path).mapError .read >>= Config.ofText
      else .ok {} := by
  rw [configuration, hpath]
  rfl

lemma FileTree.run_loadConfig (t : FileTree) (path : Path) : t.run (loadConfig path) =
    (if t.isPresent path then some <$> ((t.readText path).mapError .read >>= Config.ofText)
      else .ok none, t) := by
  change t.run (if t.isPresent path then _ else _) = _
  split
  · have hstep : t.run (FileSystem.readText path) = (t.readText path, t) := rfl
    cases hread : t.readText path with
    | error e =>
      rw [hread] at hstep
      rw [run_bind_error (run_adapt_error hstep _)]
      rfl
    | ok text =>
      rw [hread] at hstep
      rw [run_bind_ok (run_adapt_ok hstep _)]
      have hparse : t.run (ExceptT.mk (pure (Config.ofText text))) = (Config.ofText text, t) := rfl
      change _ = (some <$> Config.ofText text, t)
      cases htext : Config.ofText text with
      | error e =>
        rw [htext] at hparse
        rw [run_bind_error hparse]
        rfl
      | ok config =>
        rw [htext] at hparse
        rw [run_bind_ok hparse]
        rfl
  · rfl

/-- A session starts with the configuration, writes nothing for it, and leaves the tree as it is. -/
lemma Session.runOn_startConfig (env : Environment) (report : Report) (t : FileTree) :
    ∃ events, (startConfig env).runOn report t =
      (((t.configuration env).mapError .config, { report with events }), t) := by
  rw [startConfig]
  have hrequire := runOn_require .config env.configPath report t
  cases hpath : env.configPath with
  | error e =>
    rw [hpath] at hrequire
    rw [FileTree.configuration, hpath]
    exact ⟨_, runOn_bind_error hrequire _⟩
  | ok path =>
    rw [hpath] at hrequire
    have hload := runOn_perform .config (Event.ofConfig path) (loadConfig path) report t
    rw [t.run_loadConfig] at hload
    rw [runOn_bind_ok hrequire, FileTree.configuration_eq hpath]
    by_cases hpresent : t.isPresent path
    · rw [if_pos hpresent] at hload ⊢
      cases hread : (t.readText path).mapError .read >>= Config.ofText with
      | error e =>
        rw [hread] at hload
        exact ⟨_, runOn_bind_error hload _⟩
      | ok config =>
        rw [hread] at hload
        exact ⟨_, runOn_bind_ok hload _⟩
    · rw [if_neg hpresent] at hload ⊢
      exact ⟨_, runOn_bind_ok hload _⟩

lemma yields_startConfig (env : Environment) (t : FileTree) :
    (startConfig env).Yields t ((t.configuration env).mapError .config) "" := by
  intro report
  obtain ⟨events, hrun⟩ := runOn_startConfig env report t
  exact ⟨_, hrun, String.append_empty.symm⟩

lemma yields_compile (expression : String) (t : FileTree) :
    (compile expression).Yields t ((Filter.parse expression).mapError .parse) "" :=
  yields_perform rfl .parse Event.ofParse

lemma yields_compileOption (expression : Option String) (t : FileTree) :
    Yields (expression.mapM compile) t ((expression.mapM Filter.parse).mapError .parse) "" := by
  cases expression with
  | none => exact yields_pure none t
  | some expression =>
    have hcompile := yields_compile expression t
    change Yields (compile expression >>= fun f => pure (some f)) t
      (Except.mapError _ (Filter.parse expression >>= fun f => .ok (some f))) ""
    cases hparse : Filter.parse expression with
    | error e =>
      rw [hparse] at hcompile
      exact hcompile.bind_error
    | ok f =>
      rw [hparse] at hcompile
      exact hcompile.bind_ok (yields_pure (some f) t)

lemma yields_loadAlbums (store : AlbumStore) (t : FileTree) :
    (loadAlbums store).Yields t ((t.run store.load).1.mapError .store) "" := by
  refine yields_perform ?_ .store (Event.ofLoad store.path)
  rw [store.run_load]

/-! ### Listing, reading tokens and checking -/

/-- The configuration and the page of a listing, or why there is none. -/
def FileTree.listing (t : FileTree) (env : Environment) (flags : Flags) (o : ListOptions) :
    Except CommandError (Config × Page) := do
  let config ← (t.configuration env).mapError .config
  let filter ← (o.filter.mapM Filter.parse).mapError .parse
  let store ← (chooseStore env flags config).mapError .store
  let albums ← (t.run store.load).1.mapError .store
  let page ← ((o.query config.query filter).run albums).mapError .evaluate
  return (config, page)

lemma answers_list (env : Environment) (flags : Flags) (o : ListOptions) (t : FileTree) :
    (Invocation.session env ⟨flags, some (.list o)⟩).Answers t (t.listing env flags o)
      fun (config, page) =>
        let p := flags.presentation env config
        p.shown page.json (albumTable p.colors page.albums) := by
  refine Answers.stage (yields_startConfig env t) fun config => ?_
  refine Answers.stage (yields_compileOption o.filter t) fun filter => ?_
  refine Answers.stage (yields_require .store (chooseStore env flags config) t) fun store => ?_
  refine Yields.note_if ?_ _ _
  refine Answers.stage (yields_loadAlbums store t) fun albums => ?_
  refine Answers.stage (yields_perform rfl .evaluate Event.ofQuery) fun page => ?_
  exact Yields.note_if (Presentation.yields_write _ _ _ t) _ _

lemma answers_tokens (env : Environment) (flags : Flags) (expression : String) (t : FileTree) :
    (Invocation.session env ⟨flags, some (.tokens expression)⟩).Answers t
      ((t.configuration env).mapError .config) fun config =>
        let p := flags.presentation env config
        let tokens := (tokenize expression).toList
        p.shown (.array (tokens.map Token.json)) (tokenTable p.colors tokens) := by
  rw [← bind_pure (Except.mapError CommandError.config _)]
  refine Answers.stage (yields_startConfig env t) fun config => ?_
  exact Presentation.yields_write _ _ _ t

lemma answers_check (env : Environment) (flags : Flags) (expression : String) (t : FileTree) :
    (Invocation.session env ⟨flags, some (.check expression)⟩).Answers t
      (do
        let config ← (t.configuration env).mapError .config
        let f ← (Filter.parse expression).mapError .parse
        return (config, f))
      fun (config, f) =>
        (flags.presentation env config).shown (f.json expression) (f.canonical ++ "\n") := by
  refine Answers.stage (yields_startConfig env t) fun config => ?_
  refine Answers.stage (yields_compile expression t) fun f => ?_
  exact Presentation.yields_write _ _ _ t

/-! ### Runs of the program -/

/-- The outcome of a run of the program, and the tree that it leaves. -/
def FileTree.runProgram (t : FileTree) (env : Environment) (arguments : List String) :
    Outcome × FileTree :=
  StateT.run (m := Id) (AlbumCatalog.runProgram env arguments) t

lemma runProgram_eq {env : Environment} {arguments : List String} {i : Invocation}
    (hi : Invocation.ofArguments env.albums arguments = .ok i) (t : FileTree) :
    t.runProgram env arguments = (.ofSession i.flags.json ((i.session env).runOn {} t).1,
      ((i.session env).runOn {} t).2) := by
  rw [FileTree.runProgram, AlbumCatalog.runProgram, hi]
  rfl

lemma runProgram_of_answers {γ : Type} {env : Environment} {arguments : List String}
    {i : Invocation} {t : FileTree} {r : Except CommandError γ} {text : γ → String}
    (hi : Invocation.ofArguments env.albums arguments = .ok i)
    (h : (i.session env).Answers t r text) : ∃ notes,
      (∀ c, r = .ok c → t.runProgram env arguments = (⟨0, text c, notes⟩, t)) ∧
      ∀ e, r = .error e → t.runProgram env arguments =
        (⟨e.exitStatus, "", notes ++ e.report i.flags.json⟩, t) := by
  obtain ⟨report, hrun, houtput⟩ := h {}
  have hprogram : t.runProgram env arguments =
      (Outcome.ofSession i.flags.json (r.map fun _ => (), report), t) := by
    rw [runProgram_eq hi, hrun]
  have hempty : ({} : Report).output = "" := rfl
  rw [hempty, String.empty_append] at houtput
  refine ⟨report.notes, ?_, ?_⟩
  · rintro c rfl
    have htext : text c = report.output := houtput.symm
    rw [hprogram, htext]
    rfl
  · rintro e rfl
    have htext : "" = report.output := houtput.symm
    rw [hprogram, htext]
    rfl

end AlbumCatalog
