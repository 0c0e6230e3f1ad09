import AlbumCatalog.Command.Run
import AlbumCatalog.Proofs.Saving

/-!
# Sessions on a file tree

A session is followed step by step through its report and its tree. The steps that only read leave
the tree as it was, whether they succeed or fail.
-/

namespace AlbumCatalog

open FileTree

/-- The program leaves every tree as it was. -/
def OnlyReads {ε α : Type} (x : ExceptT ε (StateM FileTree) α) : Prop :=
  ∀ t : FileTree, (t.run x).2 = t

lemma onlyReads_bind {ε α β : Type} {x : ExceptT ε (StateM FileTree) α}
    {f : α → ExceptT ε (StateM FileTree) β} (hx : OnlyReads x) (hf : ∀ a, OnlyReads (f a)) :
    OnlyReads (x >>= f) := by
  intro t
  rcases hrun : t.run x with ⟨r, t'⟩
  have ht : t' = t := by simpa [hrun] using hx t
  subst t'
  cases r with
  | ok a =>
    rw [run_bind_ok hrun]
    exact hf a t
  | error e => rw [run_bind_error hrun]

lemma onlyReads_loadConfig (path : Path) : OnlyReads (loadConfig (m := StateM FileTree) path) := by
  intro t
  change (t.run (if t.isPresent path then _ else _)).2 = t
  split
  · refine onlyReads_bind (fun t => rfl) (fun text => ?_) t
    exact onlyReads_bind (fun t => rfl) fun config t => rfl
  · rfl

lemma onlyReads_load (s : AlbumStore) : OnlyReads (s.load (m := StateM FileTree)) := by
  intro t
  rw [s.run_load]

/-- What is written of a result. -/
def Presentation.shown (p : Presentation) (json : Json) (text : String) : String :=
  if p.json then json.pretty ++ "\n" else if p.quiet then "" else text

namespace Session

variable {α β ε : Type} {report report' : Report} {t t' : FileTree}

/-- The result of a session on a tree, with its report and the tree that it leaves. -/
def runOn (s : Session (StateM FileTree) α) (report : Report) (t : FileTree) :
    (Except CommandError α × Report) × FileTree :=
  StateT.run (StateT.run (ExceptT.run s) report) t

variable {s : Session (StateM FileTree) α}

lemma runOn_bind_ok {a : α} (h : s.runOn report t = ((.ok a, report'), t'))
    (f : α → Session (StateM FileTree) β) : (s >>= f).runOn report t = (f a).runOn report' t' := by
  simp only [runOn] at h
  simp only [runOn, ExceptT.run_bind, StateT.run_bind, h]
  rfl

lemma runOn_bind_error {e : CommandError} (h : s.runOn report t = ((.error e, report'), t'))
    (f : α → Session (StateM FileTree) β) :
    (s >>= f).runOn report t = ((.error e, report'), t') := by
  simp only [runOn] at h
  simp only [runOn, ExceptT.run_bind, StateT.run_bind, h]
  rfl

lemma runOn_require (cause : ε → CommandError) (r : Except ε α) (report : Report) (t : FileTree) :
    (require cause r).runOn report t = ((r.mapError cause, report), t) := rfl

lemma runOn_perform (cause : ε → CommandError) (events : Except ε α → List Event)
    (step : ExceptT ε (StateM FileTree) α) (report : Report) (t : FileTree) :
    (perform cause events step).runOn report t =
      (((t.run step).1.mapError cause,
        { report with events := report.events ++ events (t.run step).1 }), (t.run step).2) := rfl

lemma runOn_perform_ok {step : ExceptT ε (StateM FileTree) α} {a : α} (h : t.run step = (.ok a, t'))
    (cause : ε → CommandError) (events : Except ε α → List Event) (report : Report) :
    ∃ report', (perform cause events step).runOn report t = ((.ok a, report'), t') := by
  rw [runOn_perform, h]
  exact ⟨_, rfl⟩

lemma runOn_perform_error {step : ExceptT ε (StateM FileTree) α} {e : ε}
    (h : t.run step = (.error e, t')) (cause : ε → CommandError)
    (events : Except ε α → List Event) (report : Report) :
    ∃ report', (perform cause events step).runOn report t = ((.error (cause e), report'), t') := by
  rw [runOn_perform, h]
  exact ⟨_, rfl⟩

lemma runOn_emit (events : List Event) (report : Report) (t : FileTree) :
    (emit (m := StateM FileTree) events).runOn report t =
      ((.ok (), { report with events := report.events ++ events }), t) := rfl

lemma runOn_note (text : String) (report : Report) (t : FileTree) :
    (note (m := StateM FileTree) text).runOn report t =
      ((.ok (), { report with notes := report.notes ++ text ++ "\n" }), t) := rfl

/-- Writing the result always succeeds. -/
lemma runOn_write (p : Presentation) (json : Json) (text : String) (report : Report)
    (t : FileTree) : (p.write (m := StateM FileTree) json text).runOn report t =
      ((.ok (), { report with output := report.output ++ p.shown json text }), t) := by
  unfold Presentation.write Presentation.shown
  split
  · rfl
  split
  · rw [String.append_empty]
    rfl
  · rfl

/-- The session leaves every tree as it was. -/
def LeavesTree (s : Session (StateM FileTree) α) : Prop :=
  ∀ report t, (s.runOn report t).2 = t

lemma LeavesTree.bind {f : α → Session (StateM FileTree) β} (h : s.LeavesTree)
    (hf : ∀ a, (f a).LeavesTree) : LeavesTree (s >>= f) := by
  intro report t
  rcases hrun : s.runOn report t with ⟨⟨r, report'⟩, t'⟩
  have ht : t' = t := by simpa [hrun] using h report t
  subst t'
  cases r with
  | ok a =>
    rw [runOn_bind_ok hrun]
    exact hf a report' t
  | error e => rw [runOn_bind_error hrun]

lemma leavesTree_perform {cause : ε → CommandError} {events : Except ε α → List Event}
    {step : ExceptT ε (StateM FileTree) α} (h : OnlyReads step) :
    (perform cause events step).LeavesTree := by
  intro report t
  rw [runOn_perform]
  exact h t

lemma leavesTree_startConfig (env : Environment) :
    (startConfig (m := StateM FileTree) env).LeavesTree := by
  refine LeavesTree.bind (fun _ _ => rfl) fun path => ?_
  refine LeavesTree.bind (leavesTree_perform (onlyReads_loadConfig path)) fun config => ?_
  exact fun _ _ => rfl

end Session

end AlbumCatalog
