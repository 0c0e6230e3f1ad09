import AlbumCatalog.Proofs.JsonOutput

/-!
# What is written of a failure

Up to its result a command writes no output, and no notes but the one with which a verbose listing
begins to read albums. So when the program reports an error, nothing else stands before the report.
If JSON is asked for, the report is one document, which the note spoils.
-/

namespace AlbumCatalog

open FileTree Session

/-! ### Sessions that fail -/

namespace Session

variable {α β γ ε : Type} {s : Session (StateM FileTree) α} {f : α → Session (StateM FileTree) β}
  {t : FileTree} {notes : String}

/-- The session writes neither output nor notes, however it ends. -/
def Silent (s : Session (StateM FileTree) α) : Prop :=
  ∀ report t, (s.runOn report t).1.2.output = report.output ∧
    (s.runOn report t).1.2.notes = report.notes

/-- Where the session fails on the tree, it has written these notes and nothing else. -/
def FailsBehind (s : Session (StateM FileTree) α) (t : FileTree) (notes : String) : Prop :=
  ∀ report e report' t', s.runOn report t = ((.error e, report'), t') →
    report'.output = report.output ∧ report'.notes = report.notes ++ notes

lemma silent_pure (a : α) : Silent (pure a : Session (StateM FileTree) α) :=
  fun _ _ => ⟨rfl, rfl⟩

lemma silent_require (cause : ε → CommandError) (r : Except ε α) : (require cause r).Silent :=
  fun _ _ => ⟨rfl, rfl⟩

lemma silent_perform (cause : ε → CommandError) (events : Except ε α → List Event)
    (step : ExceptT ε (StateM FileTree) α) : (perform cause events step).Silent :=
  fun _ _ => ⟨rfl, rfl⟩

lemma silent_emit (events : List Event) : (emit (m := StateM FileTree) events).Silent :=
  fun _ _ => ⟨rfl, rfl⟩

lemma silent_isPresent (path : Path) :
    Silent (FileSystem.isPresent (m := StateM FileTree) path : Session (StateM FileTree) Bool) :=
  fun _ _ => ⟨rfl, rfl⟩

lemma Silent.bind (h : s.Silent) (hf : ∀ a, (f a).Silent) : Silent (s >>= f) := by
  intro report t
  rcases hrun : s.runOn report t with ⟨⟨r, report'⟩, t'⟩
  obtain ⟨houtput, hnotes⟩ := h report t
  rw [hrun] at houtput hnotes
  cases r with
  | ok a =>
    rw [runOn_bind_ok hrun, ← houtput, ← hnotes]
    exact hf a report' t'
  | error e =>
    rw [runOn_bind_error hrun]
    exact ⟨houtput, hnotes⟩

/-- A session that ends well on the tree does not fail there. -/
lemma Yields.failsBehind {a : α} {output : String} (h : s.Yields t (.ok a) output) :
    s.FailsBehind t notes := by
  intro report e report' t' hrun
  obtain ⟨report'', hok, -⟩ := h report
  rw [hok] at hrun
  cases hrun

/-- Behind a stage that writes nothing, the notes are those of the stages after it. -/
lemma Silent.failsBehind (h : s.Silent) (hf : ∀ a t, (f a).FailsBehind t "") (t : FileTree) :
    FailsBehind (s >>= f) t "" := by
  intro report e report' t' hfail
  rcases hrun : s.runOn report t with ⟨⟨r, report₁⟩, t₁⟩
  obtain ⟨houtput, hnotes⟩ := h report t
  rw [hrun] at houtput hnotes
  cases r with
  | ok a =>
    rw [runOn_bind_ok hrun] at hfail
    rw [← houtput, ← hnotes]
    exact hf a t₁ report₁ e report' t' hfail
  | error e' =>
    rw [runOn_bind_error hrun] at hfail
    cases hfail
    exact ⟨houtput, by rw [hnotes, String.append_empty]⟩

/-- The notes that belong to a result, if there is one. -/
def notesOf (r : Except CommandError γ) (notes : γ → String) : String :=
  match r with
  | .ok c => notes c
  | .error _ => ""

/-- The notes of a session that begins with a stage are those of the computation that begins with
the result of the stage. -/
lemma Silent.failsBehind_stage {notes : γ → String} {r : Except CommandError α}
    {g : α → Except CommandError γ} (h : s.Silent) (hr : s.Yields t r "")
    (hf : ∀ a, (f a).FailsBehind t (notesOf (g a) notes)) :
    FailsBehind (s >>= f) t (notesOf (r >>= g) notes) := by
  intro report e report' t' hfail
  obtain ⟨report₁, hrun, houtput⟩ := hr report
  have hnotes : report₁.notes = report.notes := by
    rw [← (h report t).2, hrun]
  rw [String.append_empty] at houtput
  cases r with
  | ok a =>
    rw [runOn_bind_ok hrun] at hfail
    rw [← houtput, ← hnotes]
    exact hf a report₁ e report' t' hfail
  | error e' =>
    rw [runOn_bind_error hrun] at hfail
    cases hfail
    exact ⟨houtput, hnotes.trans String.append_empty.symm⟩

lemma failsBehind_note {g : Unit → Session (StateM FileTree) β} (h : (g ()).FailsBehind t "")
    (c : Prop) [Decidable c] (text : String) :
    FailsBehind (if c then note text >>= g else g ()) t (if c then text ++ "\n" else "") := by
  split
  · intro report e report' t' hfail
    rw [runOn_bind_ok (runOn_note text report t)] at hfail
    obtain ⟨houtput, hnotes⟩ := h _ e report' t' hfail
    exact ⟨houtput, by rw [hnotes, String.append_empty, String.append_assoc]⟩
  · exact h

end Session

/-! ### Commands that fail -/

/-- The album file that a listing begins to read, or why it does not come to this. -/
def FileTree.listedStore (t : FileTree) (env : Environment) (flags : Flags) (o : ListOptions) :
    Except CommandError AlbumStore := do
  let config ← (t.configuration env).mapError .config
  let _ ← (o.filter.mapM Filter.parse).mapError .parse
  (chooseStore env flags config).mapError .store

def readingNote (flags : Flags) (store : AlbumStore) : String :=
  if flags.verbose then "Reading albums from " ++ store.path.text ++ "\n" else ""

/-- The note that stands before the report of an error: that of a listing which has begun to read
albums. -/
def FileTree.noteBefore (t : FileTree) (env : Environment) (i : Invocation) : String :=
  match i.command with
  | some (.list o) => notesOf (t.listedStore env i.flags o) (readingNote i.flags)
  | _ => ""

lemma silent_startConfig (env : Environment) :
    (startConfig (m := StateM FileTree) env).Silent := by
  intro report t
  obtain ⟨events, hrun⟩ := runOn_startConfig env report t
  rw [hrun]
  exact ⟨rfl, rfl⟩

lemma silent_compileOption (expression : Option String) :
    Silent (expression.mapM (compile (m := StateM FileTree))) := by
  cases expression with
  | none => exact silent_pure none
  | some expression => exact Silent.bind (silent_perform _ _ _) fun f => silent_pure _

lemma Presentation.failsBehind_write (p : Presentation) (json : Json) (text : String)
    (t : FileTree) : (p.write (m := StateM FileTree) json text).FailsBehind t "" :=
  (p.yields_write json text t).failsBehind

lemma failsBehind_list (env : Environment) (flags : Flags) (o : ListOptions) (t : FileTree) :
    (Invocation.session env ⟨flags, some (.list o)⟩).FailsBehind t
      (notesOf (t.listedStore env flags o) (readingNote flags)) := by
  refine (silent_startConfig env).failsBehind_stage (yields_startConfig env t) fun config => ?_
  refine (silent_compileOption _).failsBehind_stage (yields_compileOption o.filter t) fun f => ?_
  rw [← bind_pure (Except.mapError CommandError.store _)]
  refine (silent_require _ _).failsBehind_stage (yields_require _ _ t) fun store => ?_
  refine failsBehind_note ?_ _ _
  refine (silent_perform _ _ _).failsBehind (fun albums t => ?_) t
  refine (silent_perform _ _ _).failsBehind (fun page t => ?_) t
  exact (Yields.note_if (Presentation.yields_write _ _ _ t) _ _).failsBehind

lemma failsBehind_import (env : Environment) (flags : Flags) (config : Config) (source : Path)
    (t : FileTree) : (runImport env flags config source).FailsBehind t "" := by
  refine (silent_perform _ _ _).failsBehind (fun albums t => ?_) t
  refine (silent_require _ _).failsBehind (fun store t => ?_) t
  refine (silent_perform _ _ _).failsBehind (fun _ t => ?_) t
  refine (silent_emit _).failsBehind (fun _ t => ?_) t
  exact Presentation.failsBehind_write _ _ _ t

lemma failsBehind_config (env : Environment) (flags : Flags) (what : ConfigCommand)
    (t : FileTree) :
    (Invocation.session env ⟨flags, some (.config what)⟩).FailsBehind t "" := by
  cases what with
  | showing =>
    refine (silent_startConfig env).failsBehind (fun config t => ?_) t
    refine (silent_require _ _).failsBehind (fun path t => ?_) t
    refine (silent_isPresent path).failsBehind (fun isThere t => ?_) t
    exact Presentation.failsBehind_write _ _ _ t
  | path =>
    refine (silent_require _ _).failsBehind (fun path t => ?_) t
    refine (silent_isPresent path).failsBehind (fun isThere t => ?_) t
    exact Presentation.failsBehind_write _ _ _ t
  | writing force =>
    refine (silent_require _ _).failsBehind (fun path t => ?_) t
    refine (silent_perform _ _ _).failsBehind (fun _ t => ?_) t
    exact Presentation.failsBehind_write _ _ _ t

lemma failsBehind_session (env : Environment) (i : Invocation) (t : FileTree) :
    (i.session env).FailsBehind t (t.noteBefore env i) := by
  obtain ⟨flags, command⟩ := i
  cases command with
  | none =>
    change FailsBehind (if flags.quiet then pure () else print _) t ""
    split
    · exact (yields_pure () t).failsBehind
    · exact Yields.failsBehind fun report => ⟨_, rfl, rfl⟩
  | some command =>
    cases command with
    | check expression =>
      refine (silent_startConfig env).failsBehind (fun config t => ?_) t
      refine (silent_perform _ _ _).failsBehind (fun f t => ?_) t
      exact Presentation.failsBehind_write _ _ _ t
    | tokens expression =>
      refine (silent_startConfig env).failsBehind (fun config t => ?_) t
      exact Presentation.failsBehind_write _ _ _ t
    | list o => exact failsBehind_list env flags o t
    | importing source =>
      refine (silent_startConfig env).failsBehind (fun config t => ?_) t
      exact failsBehind_import env flags config source t
    | config what => exact failsBehind_config env flags what t
    | completions shell => exact (yields_pure () t).failsBehind

/-- A run that fails has written nothing but the notes before the report, and the report. -/
lemma runProgram_of_failure {env : Environment} {arguments : List String} {i : Invocation}
    (hi : Invocation.ofArguments env.albums arguments = .ok i) {t : FileTree}
    (hfail : (t.runProgram env arguments).1.exitStatus ≠ 0) :
    ∃ e, ((i.session env).runOn {} t).1.1 = .error e ∧ (t.runProgram env arguments).1 =
      ⟨e.exitStatus, "", t.noteBefore env i ++ e.report i.flags.json⟩ := by
  rw [runProgram_eq hi] at hfail ⊢
  rcases hrun : (i.session env).runOn {} t with ⟨⟨r, report⟩, t'⟩
  rw [hrun] at hfail
  cases r with
  | ok _ => exact absurd rfl hfail
  | error e =>
    obtain ⟨houtput, hnotes⟩ := failsBehind_session env i t {} e report t' hrun
    refine ⟨e, rfl, ?_⟩
    change Outcome.mk e.exitStatus report.output (report.notes ++ e.report i.flags.json) = _
    rw [houtput, hnotes]
    exact congrArg (Outcome.mk _ _ <| · ++ _) String.empty_append

/-! ### Reports in JSON -/

structure FailureDraft where
  code : Option String := none
  message : Option String := none

/-- The code and the message of an error. -/
def readFailureBody (bound : Nat) : JsonReader (String × String) :=
  readObject bound
    (fun (draft : FailureDraft) key cs => do
      match key with
      | "code" =>
        let (code, cs) ← fillSlot draft.code readJsonString cs
        .ok ({ draft with code }, cs)
      | "message" =>
        let (message, cs) ← fillSlot draft.message readJsonString cs
        .ok ({ draft with message }, cs)
      | _ => .ok (draft, ← skipSlot bound cs))
    {}
    (fun draft => do
      .ok (← demand draft.code, ← demand draft.message))

/-- The only member of a report. -/
def readFailure (bound : Nat) : JsonReader (String × String) :=
  readObject bound
    (fun (draft : Option (String × String)) key cs => do
      match key with
      | "error" => fillSlot draft (readFailureBody bound) cs
      | _ => .ok (draft, ← skipSlot bound cs))
    none
    demand

lemma CommandError.decodes_json (e : CommandError) (bound : Nat) :
    Decodes bound (readFailure bound) e.json (e.code, e.message) := by
  have hbody : Decodes bound (readFailureBody bound)
      (.object [("code", .string e.code), ("message", .string e.message)]) (e.code, e.message) := by
    refine decodes_object bound (s := ⟨some e.code, some e.message⟩) ?_ rfl
    refine .cons (fills_slot (·.code) ({ · with code := · }) rfl (fun _ _ => rfl)
      (decodes_string bound e.code)) ?_
    exact .cons (fills_slot (·.message) ({ · with message := · }) rfl (fun _ _ => rfl)
      (decodes_string bound e.message)) (.nil _)
  refine decodes_object bound (s := some (e.code, e.message)) ?_ rfl
  exact .cons (fills_slot (fun draft => draft) (fun _ slot => slot) rfl
    (fun s cs => by cases fillSlot s (readFailureBody bound) cs <;> rfl) hbody) (.nil _)

/-- No value begins with the first letter of the note. -/
lemma not_jsonText_of_head {v : Json} {cs : List Char} (h : cs.head? = some 'R') :
    ¬ JsonText v cs := by
  intro hv
  cases hv with
  | number n =>
    rw [decimalInt] at h
    split at h
    · cases h
    · have hdigit := isDigit_of_mem_decimal _ 'R' (List.mem_of_mem_head? h)
      cases hdigit
  | _ => cases h

lemma not_jsonText_of_note {path rest text : String} {v : Json}
    (h : "Reading albums from " ++ path ++ "\n" ++ rest = text ++ "\n") :
    ¬ JsonText v text.toList := by
  intro hv
  obtain ⟨c, cs, hc, -, -⟩ := hv.isItem
  have hhead := congrArg (·.toList.head?) h
  refine not_jsonText_of_head ?_ hv
  simpa [hc] using hhead.symm

/-- The note stands before the report of a verbose listing only. -/
lemma noteBefore_cases (t : FileTree) (env : Environment) (i : Invocation) :
    t.noteBefore env i = "" ∨ i.flags.verbose ∧ ∃ o store, i.command = some (.list o) ∧
      t.listedStore env i.flags o = .ok store ∧
      t.noteBefore env i = "Reading albums from " ++ store.path.text ++ "\n" := by
  unfold FileTree.noteBefore
  split
  case h_2 => exact .inl rfl
  case h_1 o hcommand =>
    cases hstore : t.listedStore env i.flags o with
    | error e => exact .inl rfl
    | ok store =>
      by_cases hverbose : i.flags.verbose
      · exact .inr ⟨hverbose, o, store, hcommand, hstore, if_pos hverbose⟩
      · exact .inl (if_neg hverbose)

/-- Of a failure that is to be reported in JSON, the errors are one document, with the code and the
message of the error, unless the note of a verbose listing stands before it. Nothing is written
as output. -/
theorem json_failure_is_one_document {env : Environment} {arguments : List String} {i : Invocation}
    (hi : Invocation.ofArguments env.albums arguments = .ok i) (hjson : i.flags.json)
    (t : FileTree) (hfail : (t.runProgram env arguments).1.exitStatus ≠ 0) :
    let note := t.noteBefore env i
    let outcome := (t.runProgram env arguments).1
    (note = "" ∨ i.flags.verbose ∧ ∃ o store, i.command = some (.list o) ∧
      t.listedStore env i.flags o = .ok store ∧
      note = "Reading albums from " ++ store.path.text ++ "\n") ∧
    ∃ e, ((i.session env).runOn {} t).1.1 = .error e ∧
      outcome = ⟨e.exitStatus, "", note ++ (e.json.pretty ++ "\n")⟩ ∧
      (Documents outcome.errors readFailure (e.code, e.message) ↔ note = "") := by
  intro note outcome
  have hnote := noteBefore_cases t env i
  obtain ⟨e, he, houtcome⟩ := runProgram_of_failure hi hfail
  rw [CommandError.report, if_pos hjson] at houtcome
  refine ⟨hnote, e, he, houtcome, ?_⟩
  have herrors : outcome.errors = note ++ (e.json.pretty ++ "\n") := congrArg Outcome.errors houtcome
  rw [herrors]
  constructor
  · rintro ⟨text, v, htext, hv, -⟩
    rcases hnote with hnote | ⟨-, o, store, -, -, hnote⟩
    · exact hnote
    · rw [show note = _ from hnote] at htext
      exact absurd hv (not_jsonText_of_note htext)
  · intro hnote
    rw [hnote, String.empty_append]
    exact documents_pretty e.decodes_json

/-- An album file that is not there, with a quote and a line break in its name. -/
theorem missing_album_file_is_reported :
    let env : Environment := { home := some "/h" }
    let arguments := ["--json", "--albums", "\"é\n", "list"]
    let t : FileTree := ⟨[], []⟩
    (∃ i, Invocation.ofArguments env.albums arguments = .ok i ∧ i.flags.json) ∧
    (t.runProgram env arguments).1 = ⟨5, "",
      "\x7b\n  \"error\": \x7b\n    \"code\": \"STORE_ERROR\",\n    \"message\": " ++
      "\"album store error: failed to read album file '\\\"é\\n': " ++
      "No such file or directory (os error 2)\"\n  \x7d\n\x7d\n"⟩ ∧
    ∃ e : CommandError, e.exitStatus = 5 ∧
      Documents (t.runProgram env arguments).1.errors readFailure (e.code, e.message) := by
  intro env arguments t
  have hi : Invocation.ofArguments env.albums arguments =
      .ok ⟨{ json := true, albums := some ⟨"\"é\n"⟩ }, some (.list {})⟩ := by
    decide +kernel
  have hstatus : (t.runProgram env arguments).1.exitStatus = 5 := by decide +kernel
  obtain ⟨hnote, e, -, houtcome, hdocument⟩ :=
    json_failure_is_one_document hi rfl t (by rw [hstatus]; decide)
  refine ⟨⟨_, hi, rfl⟩, by decide +kernel, e, ?_, hdocument.mpr ?_⟩
  · rw [← hstatus, houtcome]
  · rcases hnote with hnote | ⟨hverbose, -⟩
    · exact hnote
    · cases hverbose

/-- The note of a verbose listing stands before the report that the album file is missing. -/
theorem verbose_listing_spoils_report :
    let env : Environment := { home := some "/h" }
    let arguments := ["--json", "--verbose", "--albums", "a.json", "list"]
    let t : FileTree := ⟨[], []⟩
    (∃ i, Invocation.ofArguments env.albums arguments = .ok i ∧ i.flags.json) ∧
    (t.runProgram env arguments).1 = ⟨5, "", "Reading albums from a.json\n" ++
      "\x7b\n  \"error\": \x7b\n    \"code\": \"STORE_ERROR\",\n    \"message\": " ++
      "\"album store error: failed to read album file 'a.json': " ++
      "No such file or directory (os error 2)\"\n  \x7d\n\x7d\n"⟩ ∧
    ¬ ∃ text v, (t.runProgram env arguments).1.errors = text ++ "\n" ∧ JsonText v text.toList := by
  intro env arguments t
  have hi : Invocation.ofArguments env.albums arguments =
      .ok ⟨{ json := true, verbose := true, albums := some ⟨"a.json"⟩ }, some (.list {})⟩ := by
    decide +kernel
  have hfail : (t.runProgram env arguments).1.exitStatus ≠ 0 := by decide +kernel
  obtain ⟨e, -, houtcome⟩ := runProgram_of_failure hi hfail
  refine ⟨⟨_, hi, rfl⟩, by decide +kernel, ?_⟩
  rintro ⟨text, v, htext, hv⟩
  rw [houtcome] at htext
  exact not_jsonText_of_note htext hv

end AlbumCatalog
