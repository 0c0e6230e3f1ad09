import AlbumCatalog.Proofs.ParentDirectory
import AlbumCatalog.Proofs.SessionOutput

/-!
# Commands on a configuration file of any content

The commands that tell where the configuration file is and that write it do not read it, so they work
whatever bytes it holds. A file that is written by force is read as the configuration that sets
nothing, with which a session without a file starts as well. Only to show the configuration must the
file be read, and that fails where its bytes hold none.
-/

namespace AlbumCatalog

open FileTree Session

/-! ### What a file holds -/

namespace Config

/-- The configuration in the bytes of a file. -/
def ofBytes (content : ByteArray) : Except ConfigError Config :=
  match String.fromUTF8? content with
  | some text => ofText text
  | none => .error (.read .notText)

/-- Bytes hold no configuration for one of three reasons. -/
lemma ofBytes_eq_error {content : ByteArray} {e : ConfigError} (h : ofBytes content = .error e) :
    e = .read .notText ∨ e = .format ∨ ∃ version > configVersion, e = .newerVersion version := by
  unfold ofBytes at h
  split at h
  · unfold ofText at h
    split at h
    · cases h
      exact .inr (.inl rfl)
    · rename_i version config hmembers
      split at h
      · rename_i hnewer
        cases h
        exact .inr (.inr ⟨version, hnewer, rfl⟩)
      · cases h
  · cases h
    exact .inl rfl

lemma ofText_startingConfigText : ofText startingConfigText = .ok {} := by
  have htext : startingConfigText.toList =
      startingConfigLines.flatMap fun line => line.toList ++ ['\n'] := String.toList_ofList
  have hmembers : tomlOfText? startingConfigText >>= configOfMembers? =
      some (configVersion, {}) := by
    unfold tomlOfText?
    rw [htext]
    decide +kernel
  rw [ofText, hmembers]
  exact if_neg (Nat.lt_irrefl _)

lemma ofBytes_startingConfigText : ofBytes startingConfigText.toUTF8 = .ok {} := by
  rw [ofBytes, fromUTF8?_toUTF8]
  exact ofText_startingConfigText

end Config

section Content

variable {env : Environment} {path : Path} {t : FileTree} {content : ByteArray}

lemma FileTree.configuration_of_find (hpath : env.configPath = .ok path)
    (hfile : t.find path = .ok (.file content)) :
    t.configuration env = Config.ofBytes content := by
  have hread : t.readText path =
      ((String.fromUTF8? content).map .ok).getD (.error .notText) := by
    rw [readText, hfile]
    rfl
  rw [configuration_eq hpath, if_pos (isPresent_of_find hfile), hread, Config.ofBytes]
  cases String.fromUTF8? content <;> rfl

lemma FileTree.configuration_of_absent (hpath : env.configPath = .ok path)
    (habsent : ¬ t.isPresent path) : t.configuration env = .ok {} := by
  rw [configuration_eq hpath, if_neg habsent]

end Content

/-! ### Writing the file -/

section Writing

variable {path : Path} {t : FileTree}

/-- A file that is there is not replaced without force. -/
lemma run_writeStartingConfig_of_present (h : t.isPresent path) :
    t.run (writeStartingConfig path false) = (.error (.alreadyExists path), t) := by
  change t.run (if t.isPresent path && !false then throw (ConfigError.alreadyExists path) else _) = _
  rw [h]
  rfl

/-- By force it is: the directory of a file is there, and the file can get other bytes. -/
lemma run_writeStartingConfig_by_force {t' : FileTree} {content : ByteArray}
    (hfile : t.find path = .ok (.file content))
    (hwrite : t.writeText path startingConfigText = .ok t') :
    t.run (writeStartingConfig path true) = (.ok (), t') := by
  obtain ⟨l, hl, -⟩ := find_eq_ok.mp hfile
  have hstep : t.run (FileSystem.writeText path startingConfigText) = (.ok (), t') :=
    run_change_ok hwrite
  change t.run (if t.isPresent path && !true then throw (ConfigError.alreadyExists path) else _) = _
  rw [Bool.not_true, Bool.and_false, if_neg Bool.false_ne_true]
  -- the parent is there already, as the walk to the file has come through it
  cases hparent : path.parent? with
  | none => exact run_adapt_ok hstep _
  | some parent =>
    have hdirs := run_makeDirectories_of_hasDirectory (hl.hasDirectory_parent hparent)
    refine (run_bind_ok (run_adapt_ok hdirs _) _).trans ?_
    exact run_adapt_ok hstep _

end Writing

/-! ### Sessions -/

section Sessions

variable {env : Environment} {path : Path} {t : FileTree} {report : Report}

lemma runOn_requirePath (hpath : env.configPath = .ok path) :
    (require .config env.configPath).runOn report t = ((.ok path, report), t) := by
  rw [runOn_require, hpath]
  rfl

lemma runOn_isPresent (path : Path) (report : Report) (t : FileTree) :
    runOn (FileSystem.isPresent (m := StateM FileTree) path : Session (StateM FileTree) Bool)
      report t = ((.ok (t.isPresent path), report), t) := rfl

lemma runOn_configPath (hpath : env.configPath = .ok path) (hpresent : t.isPresent path)
    (p : Presentation) : (runConfigPath env p).runOn report t =
      ((.ok (), { report with
        output := report.output ++ { p with quiet := false }.shown
          (.object [("exists", .bool true), ("path", .string path.text)]) (path.text ++ "\n") }),
        t) := by
  rw [runConfigPath, runOn_bind_ok (runOn_requirePath hpath), runOn_bind_ok (runOn_isPresent _ _ _),
    hpresent, runOn_write]

/-- A configuration is shown as JSON, or by the settings at the end of a text. -/
lemma runOn_configShow {config : Config} (hpath : env.configPath = .ok path)
    (hpresent : t.isPresent path) (hconfig : t.configuration env = .ok config) (p : Presentation) :
    ∃ start events, (runConfigShow env p).runOn report t =
      ((.ok (), { report with
        output := report.output ++ p.shown
          (.object [("config", config.json), ("exists", .bool true), ("path", .string path.text)])
          (start ++ config.settingsText)
        events }), t) := by
  obtain ⟨events, hstart⟩ := runOn_startConfig env report t
  rw [hconfig] at hstart
  rw [runConfigShow, runOn_bind_ok hstart, runOn_bind_ok (runOn_requirePath hpath),
    runOn_bind_ok (runOn_isPresent _ _ _), hpresent, if_pos rfl]
  exact ⟨_, events, runOn_write _ _ _ _ _⟩

lemma runOn_configShow_of_error {e : ConfigError} (hconfig : t.configuration env = .error e)
    (p : Presentation) : ∃ events, (runConfigShow env p).runOn report t =
      ((.error (.config e), { report with events }), t) := by
  obtain ⟨events, hstart⟩ := runOn_startConfig env report t
  rw [hconfig] at hstart
  exact ⟨events, runOn_bind_error hstart _⟩

lemma runOn_configInit_of_present (hpath : env.configPath = .ok path)
    (hpresent : t.isPresent path) (p : Presentation) : ∃ events,
      (runConfigInit env p false).runOn report t =
        ((.error (.config (.alreadyExists path)), { report with events }), t) := by
  have hwrite := runOn_perform .config (fun _ => []) (writeStartingConfig path false) report t
  rw [run_writeStartingConfig_of_present hpresent] at hwrite
  rw [runConfigInit, runOn_bind_ok (runOn_requirePath hpath)]
  exact ⟨_, runOn_bind_error hwrite _⟩

lemma runOn_configInit_by_force {t' : FileTree} {content : ByteArray}
    (hpath : env.configPath = .ok path) (hfile : t.find path = .ok (.file content))
    (hwrite : t.writeText path startingConfigText = .ok t') (p : Presentation) : ∃ events,
      (runConfigInit env p true).runOn report t =
        ((.ok (), { report with
          output := report.output ++ p.shown
            (.object [("path", .string path.text), ("status", .string "success")])
            ("Created config at: " ++ path.text ++ "\n")
          events }), t') := by
  have hstep := runOn_perform .config (fun _ => []) (writeStartingConfig path true) report t
  rw [run_writeStartingConfig_by_force hfile hwrite] at hstep
  rw [runConfigInit, runOn_bind_ok (runOn_requirePath hpath)]
  exact ⟨_, (runOn_bind_ok hstep _).trans (runOn_write _ _ _ _ _)⟩

end Sessions

/-! ### Runs -/

section Runs

variable {env : Environment} {arguments : List String} {i : Invocation} {t t' : FileTree}
  {output : String} {events : List Event}

lemma runProgram_of_ok (hi : Invocation.ofArguments env.albums arguments = .ok i)
    (h : (i.session env).runOn {} t =
      ((.ok (), { ({} : Report) with output := ({} : Report).output ++ output, events }), t')) :
    t.runProgram env arguments = (⟨0, output, ""⟩, t') := by
  rw [runProgram_eq hi, h]
  exact congrArg (fun output => (Outcome.mk 0 output "", t')) String.empty_append

lemma runProgram_of_error {e : CommandError}
    (hi : Invocation.ofArguments env.albums arguments = .ok i)
    (h : (i.session env).runOn {} t = ((.error e, { ({} : Report) with events }), t')) :
    t.runProgram env arguments = (⟨e.exitStatus, "", e.report i.flags.json⟩, t') := by
  rw [runProgram_eq hi, h]
  exact congrArg (fun errors => (Outcome.mk e.exitStatus "" errors, t')) String.empty_append

end Runs

/-- The commands on a configuration file, whatever bytes it holds. Its path is told. Without force it
is not written and nothing changes; by force it alone changes, and then sessions start as if there
were no file. The configuration is shown if the bytes hold one; if not, the command fails for what is
wrong with them. -/
theorem config_commands_on_any_content {env : Environment} {arguments : List String}
    {flags : Flags} {what : ConfigCommand} {path : Path} {content : ByteArray}
    (hi : Invocation.ofArguments env.albums arguments = .ok ⟨flags, some (.config what)⟩)
    (hpath : env.configPath = .ok path) (t : FileTree)
    (hfile : t.find path = .ok (.file content)) :
    let p := flags.presentation env {}
    let run := t.runProgram env arguments
    match what with
    | .path => run = (⟨0, { p with quiet := false }.shown
        (.object [("exists", .bool true), ("path", .string path.text)]) (path.text ++ "\n"), ""⟩, t)
    | .showing =>
      (∀ config, Config.ofBytes content = .ok config → ∃ start, run = (⟨0, p.shown
        (.object [("config", config.json), ("exists", .bool true), ("path", .string path.text)])
        (start ++ config.settingsText), ""⟩, t)) ∧
      ∀ e, Config.ofBytes content = .error e →
        (e = .read .notText ∨ e = .format ∨ ∃ version > configVersion, e = .newerVersion version) ∧
        run = (⟨5, "", (CommandError.config e).report flags.json⟩, t)
    | .writing false =>
      run = (⟨5, "", (CommandError.config (.alreadyExists path)).report flags.json⟩, t)
    | .writing true =>
      let place := path.placeFrom t.workingDirectory
      ∃ t', run = (⟨0, p.shown
          (.object [("path", .string path.text), ("status", .string "success")])
          ("Created config at: " ++ path.text ++ "\n"), ""⟩, t') ∧
        SameFilesExcept {place} t t' ∧ t'.fileAt? place = some startingConfigText.toUTF8 ∧
        ((startConfig env).runOn {} t').1.1 = .ok {} ∧
        ∀ t₀ : FileTree, ¬ t₀.isPresent path → ((startConfig env).runOn {} t₀).1.1 = .ok {} := by
  intro p run
  have hpresent : t.isPresent path := isPresent_of_find hfile
  have hconfig : t.configuration env = Config.ofBytes content := configuration_of_find hpath hfile
  cases what with
  | path => exact runProgram_of_ok hi (runOn_configPath hpath hpresent p)
  | showing =>
    constructor
    · intro config hcontent
      obtain ⟨start, events, hrun⟩ := runOn_configShow hpath hpresent (hconfig.trans hcontent) p
      exact ⟨start, runProgram_of_ok hi hrun⟩
    · intro e hcontent
      obtain ⟨events, hrun⟩ := runOn_configShow_of_error (hconfig.trans hcontent) p
      exact ⟨Config.ofBytes_eq_error hcontent, runProgram_of_error hi hrun⟩
  | writing force =>
    cases force with
    | false =>
      obtain ⟨events, hrun⟩ := runOn_configInit_of_present hpath hpresent p
      exact runProgram_of_error hi hrun
    | true =>
      obtain ⟨t', hwrite⟩ := exists_writeText_of_find hfile startingConfigText
      obtain ⟨events, hrun⟩ := runOn_configInit_by_force hpath hfile hwrite p
      refine ⟨t', runProgram_of_ok hi hrun, sameFiles_writeText hwrite, fileAt?_writeText hwrite,
        ?_, fun t₀ habsent => ?_⟩
      · obtain ⟨events, hstart⟩ := runOn_startConfig env {} t'
        rw [hstart, configuration_of_find hpath (find_writeText hwrite),
          Config.ofBytes_startingConfigText]
        rfl
      · obtain ⟨events, hstart⟩ := runOn_startConfig env {} t₀
        rw [hstart, configuration_of_absent hpath habsent]
        rfl

/-- A file in a directory, which holds a byte that is no text, or else a configuration. -/
theorem config_commands_on_lone_byte :
    let env : Environment := { config := some "d/c.toml" }
    let path : Path := ⟨"d/c.toml"⟩
    let treeOf : ByteArray → FileTree := fun content =>
      ⟨[(["d"], .directory), (["d", "c.toml"], .file content)], []⟩
    let text := "albums_file = 'a.json'\n"
    let t := treeOf ⟨#[0xFF]⟩
    let whole := treeOf text.toUTF8
    let accepts := fun arguments what =>
      Invocation.ofArguments env.albums arguments = .ok ⟨{}, some (.config what)⟩
    (env.configPath = .ok path ∧ ∀ content, (treeOf content).find path = .ok (.file content)) ∧
    (accepts ["config", "path"] .path ∧
      t.runProgram env ["config", "path"] = (⟨0, "d/c.toml\n", ""⟩, t)) ∧
    (accepts ["config", "show"] .showing ∧
      Config.ofBytes text.toUTF8 = .ok { albumsFile := some ⟨"a.json"⟩ } ∧
      (whole.runProgram env ["config", "show"]).1.exitStatus = 0 ∧
      Config.ofBytes ⟨#[0xFF]⟩ = .error (.read .notText) ∧
      t.runProgram env ["config", "show"] = (⟨5, "", "Error: configuration error: " ++
        "Failed to read config: stream did not contain valid UTF-8\n"⟩, t)) ∧
    (accepts ["config", "init"] (.writing false) ∧
      t.runProgram env ["config", "init"] = (⟨5, "", "Error: configuration error: " ++
        "Config file already exists at d/c.toml (use --force to overwrite)\n"⟩, t)) ∧
    accepts ["config", "init", "--force"] (.writing true) ∧
      ∃ t', t.runProgram env ["config", "init", "--force"] =
          (⟨0, "Created config at: d/c.toml\n", ""⟩, t') ∧
        t'.fileAt? ["d", "c.toml"] = some startingConfigText.toUTF8 ∧
        ((startConfig env).runOn {} t').1.1 = .ok {} ∧
        ((startConfig env).runOn {} {}).1.1 = .ok {} := by
  intro env path treeOf text t whole accepts
  have hpath : env.configPath = .ok path := rfl
  have hcomponents : path.components = ["d", "c.toml"] := by decide +kernel
  have hplace : path.placeFrom [] = ["d", "c.toml"] := by decide +kernel
  have hfind : ∀ content, (treeOf content).find path = .ok (.file content) := by
    intro content
    have hchecked : checkPath path = .ok () := checkPath_eq_ok.mpr (by decide +kernel)
    have hwalked : (treeOf content).walk ((treeOf content).startOf path) path.components =
        .ok ["d", "c.toml"] := by
      have hstart : (treeOf content).startOf path = [] := ite_self _
      rw [hcomponents, hstart]
      refine walk_cons_eq_ok.mpr ⟨["d"], step_eq_ok.mpr ⟨rfl, by decide, by decide⟩, ?_⟩
      exact walk_cons_eq_ok.mpr ⟨_, step_eq_ok.mpr ⟨rfl, by decide, by decide⟩, rfl⟩
    exact find_eq_ok.mpr ⟨_, ⟨hchecked, hwalked⟩, rfl, fun hends => absurd hends (by decide)⟩
  have htell : accepts ["config", "path"] .path := by decide +kernel
  have hshow : accepts ["config", "show"] .showing := by decide +kernel
  have hinit : accepts ["config", "init"] (.writing false) := by decide +kernel
  have hforce : accepts ["config", "init", "--force"] (.writing true) := by decide +kernel
  have hwhole : Config.ofBytes text.toUTF8 = .ok { albumsFile := some ⟨"a.json"⟩ } := by
    rw [Config.ofBytes, fromUTF8?_toUTF8]
    unfold text
    rfl
  have hbroken : Config.ofBytes ⟨#[0xFF]⟩ = .error (.read .notText) := rfl
  have htold := config_commands_on_any_content htell hpath t (hfind _)
  obtain ⟨start, hshown⟩ := (config_commands_on_any_content hshow hpath whole (hfind _)).1 _ hwhole
  obtain ⟨-, hfails⟩ := (config_commands_on_any_content hshow hpath t (hfind _)).2 _ hbroken
  have hrefused := config_commands_on_any_content hinit hpath t (hfind _)
  obtain ⟨t', hforced, -, hfile, hstart, habsent⟩ :=
    config_commands_on_any_content hforce hpath t (hfind _)
  refine ⟨⟨hpath, hfind⟩, ⟨htell, htold⟩, ⟨hshow, hwhole, ?_, hbroken, hfails⟩, ⟨hinit, hrefused⟩,
    hforce, t', hforced, hplace ▸ hfile, hstart, habsent {} (by decide)⟩
  rw [hshown]

/-- No configuration is shown of a file whose version is a string. -/
theorem misspelled_version_is_not_shown :
    let env : Environment := { config := some "c.toml" }
    let arguments := ["--quiet", "config", "show"]
    let content := "version = \"one\"\n".toUTF8
    let t : FileTree := ⟨[(["c.toml"], .file content)], []⟩
    Invocation.ofArguments env.albums arguments =
      .ok ⟨{ quiet := true }, some (.config .showing)⟩ ∧
    env.configPath = .ok ⟨"c.toml"⟩ ∧ t.find ⟨"c.toml"⟩ = .ok (.file content) ∧
    (t.runProgram env arguments).1 =
      ⟨5, "", "Error: configuration error: Failed to parse config: \n"⟩ ∧
    (t.runProgram env arguments).1.exitStatus ≠ 0 := by
  refine ⟨?_, rfl, rfl, ?_, ?_⟩ <;> decide +kernel

end AlbumCatalog
