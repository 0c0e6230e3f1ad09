import AlbumCatalog.Event
import AlbumCatalog.Proofs.Faults

/-!
# Screening a list of albums

The faults of a filter do not depend on the album, so a filter gives an answer for every album of a
list or the same error for every one. A strict screening ends with that error exactly when a lenient
one leaves out the whole list; otherwise both give what `Filter.select` gives.
-/

namespace AlbumCatalog

/-- The warnings that come with the result of a query. -/
def Event.warnings (r : Except EvalError Page) : List Event :=
  (Event.ofQuery r).filter Event.isWarning

lemma Filter.matches_uniform (f : Filter) :
    (∃ e, ∀ a, f.matches a = .error e) ∨ ∀ a, ∃ answer, f.matches a = .ok answer := by
  cases h : f.toExpr.faults with
  | nil => exact Or.inr fun a => Filter.exists_matches_iff.mpr h
  | cons e rest => exact Or.inl ⟨e, fun a => Filter.matches_eq_error_iff.mpr (by rw [h]; rfl)⟩

/-! ### Screenings -/

lemma screen_strict (f : Filter) (albums : List Album) :
    screen f true albums = (fun passed => ⟨passed, []⟩) <$> f.select albums := by
  induction albums with
  | nil => rfl
  | cons a rest ih =>
    rw [screen, Filter.select]
    cases f.matches a with
    | error e => rfl
    | ok passes =>
      simp only [ih]
      cases f.select rest with
      | error e => rfl
      | ok others => cases passes <;> rfl

/-- Whether the filter answers for the album that it passes. -/
def Filter.passes (f : Filter) (a : Album) : Bool :=
  match f.matches a with
  | .ok answer => answer
  | .error _ => false

lemma Filter.passes_of_ok {f : Filter} {a : Album} {answer : Bool} (h : f.matches a = .ok answer) :
    f.passes a = answer := by
  rw [passes, h]

/-- A filter that always answers leaves out no album, in either kind of screening. -/
lemma screen_eq_filter {f : Filter} (h : ∀ a, ∃ answer, f.matches a = .ok answer) (strict : Bool)
    (albums : List Album) : screen f strict albums = .ok ⟨albums.filter f.passes, []⟩ := by
  induction albums with
  | nil => rfl
  | cons a rest ih =>
    obtain ⟨answer, hanswer⟩ := h a
    simp only [screen, hanswer, ih, List.filter_cons, Filter.passes_of_ok hanswer]
    cases answer <;> rfl

lemma Filter.select_eq_filter {f : Filter} (h : ∀ a, ∃ answer, f.matches a = .ok answer)
    (albums : List Album) : f.select albums = .ok (albums.filter f.passes) := by
  have hscreen := screen_strict f albums
  rw [screen_eq_filter h] at hscreen
  cases hselect : f.select albums with
  | error e =>
    rw [hselect] at hscreen
    cases hscreen
  | ok passed =>
    rw [hselect] at hscreen
    cases hscreen
    rfl

lemma screen_lenient_of_error {f : Filter} {e : EvalError} (h : ∀ a, f.matches a = .error e)
    (albums : List Album) : screen f false albums = .ok ⟨[], albums.map fun a => (a, e)⟩ := by
  induction albums with
  | nil => rfl
  | cons a rest ih =>
    simp only [screen, h a, ih]
    rfl

lemma screen_strict_of_error {f : Filter} {e : EvalError} (h : ∀ a, f.matches a = .error e)
    {albums : List Album} (hne : albums ≠ []) : screen f true albums = .error e := by
  cases albums with
  | nil => exact absurd rfl hne
  | cons a rest => simp [screen, h a]

/-! ### Queries -/

/-- A query without a page shows what passes its filter, sorted. -/
lemma Query.run_filtered (f : Filter) (sorting : Option Sorting) (strict : Bool)
    (albums : List Album) :
    Query.run { filter := some f, sorting := sorting, strict := strict } albums =
      (fun s : Screened =>
        let shown := Query.sorted { sorting := sorting } s.passed
        ⟨shown, shown.length, s.unresolved⟩) <$> screen f strict albums := by
  simp only [run, screened, sorted, paginate, List.drop_zero, Nat.lt_irrefl, if_false]
  cases screen f strict albums <;> rfl

lemma Query.run_unpaged (f : Filter) (strict : Bool) (albums : List Album) :
    Query.run { filter := some f, strict := strict } albums =
      (fun s : Screened => ⟨s.passed, s.passed.length, s.unresolved⟩) <$>
        screen f strict albums :=
  Query.run_filtered f none strict albums

lemma Query.run_strict (f : Filter) (albums : List Album) :
    Query.run { filter := some f, strict := true } albums =
      (fun passed => ⟨passed, passed.length, []⟩) <$> f.select albums := by
  rw [run_unpaged, screen_strict]
  cases f.select albums <;> rfl

lemma Query.run_strict_of_error {f : Filter} {e : EvalError} (h : ∀ a, f.matches a = .error e)
    {albums : List Album} (hne : albums ≠ []) :
    Query.run { filter := some f, strict := true } albums = .error e := by
  rw [run_unpaged, screen_strict_of_error h hne]
  rfl

lemma Query.run_lenient_of_error {f : Filter} {e : EvalError} (h : ∀ a, f.matches a = .error e)
    (albums : List Album) :
    Query.run { filter := some f } albums = .ok ⟨[], 0, albums.map fun a => (a, e)⟩ := by
  rw [run_unpaged, screen_lenient_of_error h]
  rfl

lemma Query.run_of_answers {f : Filter} (h : ∀ a, ∃ answer, f.matches a = .ok answer)
    (albums : List Album) :
    ∃ passed, Query.run { filter := some f } albums = .ok ⟨passed, passed.length, []⟩ ∧
      Query.run { filter := some f, strict := true } albums =
        .ok ⟨passed, passed.length, []⟩ := by
  refine ⟨albums.filter f.passes, ?_, ?_⟩
  · rw [run_unpaged, screen_eq_filter h]
    rfl
  · rw [run_unpaged, screen_eq_filter h]
    rfl

lemma Event.warnings_ok (p : Page) :
    warnings (.ok p) = p.unresolved.map fun (a, e) => unresolved a e := by
  have hall : ∀ w ∈ p.unresolved.map (fun (a, e) => unresolved a e), w.isWarning := by
    intro w hw
    obtain ⟨⟨a, e⟩, -, rfl⟩ := List.mem_map.mp hw
    rfl
  rw [warnings, ofQuery, List.filter_append, List.filter_eq_self.mpr hall]
  simp [isWarning]

/-- A strict query succeeds exactly when the filter gives an answer for every album, with the albums
that `Filter.select` gives, and fails with its error otherwise. A lenient query always succeeds. It
leaves out no album, and is then the strict one, or all of them, exactly when the strict one fails;
it warns of each album that it leaves out, in their order and by number. -/
theorem queries_agree_with_select (f : Filter) (albums : List Album) :
    let strict := Query.run { filter := some f, strict := true } albums
    let lenient := Query.run { filter := some f } albums
    strict = (fun passed => ⟨passed, passed.length, []⟩) <$> f.select albums ∧
      Event.warnings strict = [] ∧
      ∃ page, lenient = .ok page ∧
        (page.skipped = 0 ∨ page.skipped = albums.length) ∧
        (page.skipped = albums.length ∧ 0 < albums.length ↔ ∃ e, strict = .error e) ∧
        ((∃ e, strict = .error e) → page.total = 0 ∧ page.albums = []) ∧
        (page.skipped = 0 → lenient = strict) ∧
        (Event.warnings lenient).map (fun w => (w.message, w.fields.lookup "album_id")) =
          (if page.skipped = 0 then [] else albums).map fun a =>
            ("failed to resolve album", some (toString a.id.val)) := by
  intro strict lenient
  have hstrict : strict = _ := Query.run_strict f albums
  have hsilent : Event.warnings strict = [] := by
    rw [hstrict]
    cases f.select albums with
    | error e => rfl
    | ok passed => exact Event.warnings_ok _
  refine ⟨hstrict, hsilent, ?_⟩
  rcases f.matches_uniform with ⟨e, he⟩ | hanswers
  · have hlenient : lenient = _ := Query.run_lenient_of_error he albums
    have hskipped : Page.skipped ⟨[], 0, albums.map fun a => (a, e)⟩ = albums.length := by
      simp [Page.skipped]
    refine ⟨_, hlenient, Or.inr hskipped, ⟨?_, ?_⟩, fun _ => ⟨rfl, rfl⟩, ?_, ?_⟩
    · rintro ⟨-, hlen⟩
      exact ⟨e, Query.run_strict_of_error he (List.length_pos_iff.mp hlen)⟩
    · rintro ⟨e', he'⟩
      refine ⟨hskipped, List.length_pos_iff.mpr ?_⟩
      intro hnil
      rw [hstrict, hnil] at he'
      cases he'
    · intro hnone
      rw [hskipped, List.length_eq_zero_iff] at hnone
      rw [hlenient, hstrict, hnone]
      rfl
    · rw [hlenient, Event.warnings_ok, hskipped]
      cases albums with
      | nil => rfl
      | cons a rest => simp [Event.message, Event.fields]
  · obtain ⟨passed, hlenient, hok⟩ := Query.run_of_answers hanswers albums
    have hfails : ¬ ∃ e, strict = .error e := by
      rintro ⟨e, he⟩
      rw [show strict = _ from hok] at he
      cases he
    refine ⟨_, hlenient, Or.inl rfl, ⟨?_, ?_⟩, fun h => absurd h hfails, ?_, ?_⟩
    · rintro ⟨hskipped, hlen⟩
      exact absurd hskipped hlen.ne
    · exact fun h => absurd h hfails
    · exact fun _ => hlenient.trans hok.symm
    · rw [show lenient = _ from hlenient, Event.warnings_ok]
      rfl

/-- An order on tags is refused for the first of two albums; a lenient query leaves out both. -/
theorem lenient_query_leaves_out_both :
    let f : Filter := ⟨.field "tag", .lt, .text "é"⟩
    let first : Album :=
      ⟨⟨7, by decide⟩, "Trip", "", "", "o", .midnight ⟨2022, 2, 1, by decide⟩, ["a"], [], []⟩
    let second : Album :=
      ⟨⟨-8, by decide⟩, "", "", "", "", .midnight ⟨-1, 2, 28, by decide⟩, [], [], []⟩
    Query.run { filter := some f, strict := true } [first, second] =
        .error (.wrongOperator .tag .lt) ∧
      ∃ page, Query.run { filter := some f } [first, second] = .ok page ∧
        page.skipped = 2 ∧ page.total = 0 ∧ page.albums = [] := by
  intro f first second
  have he : ∀ a, f.matches a = .error (.wrongOperator .tag .lt) := by
    intro a
    rw [Filter.matches_eq_error_iff]
    rfl
  have hstrict : Query.run { filter := some f, strict := true } [first, second] =
      .error (.wrongOperator .tag .lt) := Query.run_strict_of_error he (by simp)
  have hfails : ∃ e, Query.run { filter := some f, strict := true } [first, second] = .error e :=
    ⟨_, hstrict⟩
  obtain ⟨-, -, page, hpage, -, hskipped, hempty, -⟩ := queries_agree_with_select f [first, second]
  exact ⟨hstrict, page, hpage, (hskipped.mpr hfails).1, hempty hfails⟩

end AlbumCatalog
