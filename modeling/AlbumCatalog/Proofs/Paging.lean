import AlbumCatalog.Proofs.Screening
import Mathlib.Algebra.Group.Nat.Defs
import Mathlib.Data.List.Range

/-!
# Pages of a result

A page is cut out of the list only after filtering and sorting, which do not look at the page. So
every page of a query is a piece of the one result that the query has without a page, and the pages
of one size, laid end to end, are that result.
-/

namespace AlbumCatalog

/-- The page of at most so many albums from the offset on, or of all of them if the limit is 0. -/
def Page.cut (whole : Page) (offset limit : Nat) : Page :=
  { whole with
    albums := if limit = 0 then whole.albums.drop offset else (whole.albums.drop offset).take limit }

/-- The multiples of the limit below the total, which are where the pages of that size begin. -/
def pageStarts (limit total : Nat) : List Nat :=
  (List.range total).filter (limit ∣ ·)

/-! ### One page -/

/-- The page decides nothing but what is cut out in the end. -/
lemma Query.run_eq_cut (q : Query) (albums : List Album) (offset limit : Nat) :
    Query.run { q with offset := offset, limit := limit } albums =
      (fun whole => whole.cut offset limit) <$>
        Query.run { q with offset := 0, limit := 0 } albums := by
  have hscreened : Query.screened { q with offset := offset, limit := limit } albums =
      Query.screened { q with offset := 0, limit := 0 } albums := rfl
  simp only [run, hscreened]
  cases Query.screened { q with offset := 0, limit := 0 } albums with
  | error e => rfl
  | ok s =>
    rcases Nat.eq_zero_or_pos limit with rfl | hpos
    · rfl
    · change Except.ok _ = Except.ok _
      simp only [paginate, Page.cut, if_pos hpos, if_neg hpos.ne']
      rfl

lemma Query.total_eq_length {q : Query} {albums : List Album} {whole : Page}
    (h : Query.run { q with offset := 0, limit := 0 } albums = .ok whole) :
    whole.total = whole.albums.length := by
  rw [run] at h
  cases hs : Query.screened { q with offset := 0, limit := 0 } albums with
  | error e =>
    rw [hs] at h
    cases h
  | ok s =>
    rw [hs] at h
    cases h
    rfl

lemma Page.cut_albums_of_le {whole : Page} {offset : Nat} (h : whole.albums.length ≤ offset)
    (limit : Nat) : (whole.cut offset limit).albums = [] := by
  simp only [cut, List.drop_eq_nil_of_le h, List.take_nil, ite_self]

/-! ### All pages -/

lemma pageStarts_eq {limit : Nat} (h : 0 < limit) (total : Nat) :
    pageStarts limit total = (List.range ((total + limit - 1) / limit)).map (· * limit) := by
  have hfilter : (pageStarts limit total).Pairwise (· < ·) := List.pairwise_lt_range.filter _
  have hmultiples : ((List.range ((total + limit - 1) / limit)).map (· * limit)).Pairwise (· < ·) :=
    List.pairwise_lt_range.map _ fun i j hij => Nat.mul_lt_mul_of_pos_right hij h
  refine List.Perm.eq_of_pairwise (fun i j _ _ hij hji => absurd hij hji.asymm) hfilter hmultiples ?_
  rw [List.perm_ext_iff_of_nodup (hfilter.imp Nat.ne_of_lt) (hmultiples.imp Nat.ne_of_lt)]
  intro start
  have hbelow : ∀ i, i < (total + limit - 1) / limit ↔ i * limit < total := by
    intro i
    rw [Nat.lt_iff_add_one_le, Nat.le_div_iff_mul_le h, Nat.add_mul, Nat.one_mul]
    omega
  simp only [pageStarts, List.mem_filter, List.mem_range, List.mem_map, decide_eq_true_eq, hbelow]
  constructor
  · rintro ⟨hlt, i, rfl⟩
    rw [Nat.mul_comm] at hlt ⊢
    exact ⟨i, hlt, rfl⟩
  · rintro ⟨i, hlt, rfl⟩
    exact ⟨hlt, Nat.dvd_mul_left limit i⟩

lemma flatMap_pieces {α : Type} (xs : List α) (limit count : Nat) :
    ((List.range count).flatMap fun i => (xs.drop (i * limit)).take limit) =
      xs.take (count * limit) := by
  induction count with
  | zero => simp
  | succ count ih =>
    rw [List.range_succ, List.flatMap_append, ih, Nat.succ_mul, List.take_add]
    simp

lemma flatMap_pageStarts {α : Type} (xs : List α) {limit : Nat} (h : 0 < limit) :
    ((pageStarts limit xs.length).flatMap fun start => (xs.drop start).take limit) = xs := by
  rw [pageStarts_eq h, List.flatMap_map, flatMap_pieces]
  apply List.take_of_length_le
  have hdiv := Nat.div_add_mod (xs.length + limit - 1) limit
  have hmod := Nat.mod_lt (xs.length + limit - 1) h
  rw [Nat.mul_comm] at hdiv
  omega

/-- All pages of a query have the total and the albums left out of the whole result, and the albums
from their offset on, as many as their limit says. Pages of one size that begin at the multiples of
the size make up the whole result, and a page behind its end is empty. If the query fails without a
page, it fails with every page. -/
theorem pages_tile_result (q : Query) (albums : List Album) :
    let whole := Query.run { q with offset := 0, limit := 0 } albums
    let page := fun offset limit => Query.run { q with offset := offset, limit := limit } albums
    (∀ e, whole = .error e → ∀ offset limit, page offset limit = .error e) ∧
      ∀ r, whole = .ok r →
        r.total = r.albums.length ∧
        (∀ offset limit, ∃ p, page offset limit = .ok p ∧
          p.total = r.total ∧ p.skipped = r.skipped ∧
          p.albums =
            (if limit = 0 then r.albums.drop offset else (r.albums.drop offset).take limit) ∧
          (r.total ≤ offset → p.albums = [])) ∧
        ∀ limit, 0 < limit → ∃ pages,
          (pageStarts limit r.total).mapM (fun start => page start limit) = .ok pages ∧
            pages.flatMap Page.albums = r.albums := by
  intro whole page
  have hpage : ∀ offset limit, page offset limit = (fun r => r.cut offset limit) <$> whole :=
    q.run_eq_cut albums
  refine ⟨fun e he offset limit => ?_, fun r hr => ?_⟩
  · rw [hpage, he]
    rfl
  have hcut : ∀ offset limit, page offset limit = .ok (r.cut offset limit) := by
    intro offset limit
    rw [hpage, hr]
    rfl
  have htotal : r.total = r.albums.length := Query.total_eq_length hr
  refine ⟨htotal, fun offset limit => ⟨_, hcut offset limit, rfl, rfl, rfl, fun hle => ?_⟩,
    fun limit hpos => ⟨(pageStarts limit r.total).map fun start => r.cut start limit, ?_, ?_⟩⟩
  · exact Page.cut_albums_of_le (htotal ▸ hle) limit
  · simp only [hcut]
    exact List.mapM_pure
  · rw [List.flatMap_map, htotal]
    simp only [Page.cut, if_neg hpos.ne']
    exact flatMap_pageStarts r.albums hpos

/-- Two albums that pass a filter on pages of one album, a page at the end of all numbers of a machine
word, and a filter that fails on every page. -/
theorem pages_of_two_albums :
    let named : String → Album := fun name =>
      ⟨⟨1, by decide⟩, name, "", "", "o", .midnight ⟨2022, 2, 1, by decide⟩, [], [], []⟩
    let albums := [named "a", named "b", named "c"]
    let q : Query := { filter := some ⟨.field "name", .ne, .text "b"⟩, strict := true }
    let faulty : Query := { filter := some ⟨.field "tag", .lt, .text "b"⟩, strict := true }
    Query.run q albums = .ok ⟨[named "a", named "c"], 2, []⟩ ∧
      (∃ pages, (pageStarts 1 2).mapM
          (fun start => Query.run { q with offset := start, limit := 1 } albums) = .ok pages ∧
        pages.flatMap Page.albums = [named "a", named "c"]) ∧
      (∃ p, Query.run { q with offset := 2 ^ 64 - 1, limit := 2 ^ 64 - 1 } albums = .ok p ∧
        p.albums = []) ∧
      Query.run faulty albums = .error (.wrongOperator .tag .lt) ∧
      Query.run { faulty with offset := 1, limit := 1 } albums =
        .error (.wrongOperator .tag .lt) := by
  intro named albums q faulty
  have hwhole : Query.run q albums = .ok ⟨[named "a", named "c"], 2, []⟩ := by
    have hselect : Filter.select ⟨.field "name", .ne, .text "b"⟩ albums =
        .ok [named "a", named "c"] := by decide +kernel
    rw [Query.run_strict, hselect]
    rfl
  have hfault : ∀ a, Filter.matches ⟨.field "tag", .lt, .text "b"⟩ a =
      .error (.wrongOperator .tag .lt) := by
    intro a
    rw [Filter.matches_eq_error_iff]
    rfl
  have hfails : Query.run faulty albums = .error (.wrongOperator .tag .lt) :=
    Query.run_strict_of_error hfault (List.cons_ne_nil _ _)
  obtain ⟨-, hone, hall⟩ := (pages_tile_result q albums).2 _ hwhole
  obtain ⟨p, hp, -, -, -, hbehind⟩ := hone (2 ^ 64 - 1) (2 ^ 64 - 1)
  exact ⟨hwhole, hall 1 (by decide), ⟨p, hp, hbehind (by decide)⟩, hfails,
    (pages_tile_result faulty albums).1 _ hfails 1 1⟩

end AlbumCatalog
