import AlbumCatalog.Proofs.Screening
import AlbumCatalog.Proofs.Sorting

/-!
# Filtering and sorting

A stable sort is decided by the albums of each key in the order in which the list has them. To filter a
list is to filter these, so filtering and sorting commute. And a list in another order is sorted in
the same way as long as albums with equal keys follow each other as before, so the order of a file
shows in the result of a sorted query only where keys are equal.
-/

namespace AlbumCatalog

/-! ### Albums of one key -/

section Keys

variable {s : Sorting} {albums albums' : List Album}

lemma Sorting.ties_of_le_of_le {a b : Album} (h : s.le a b) (h' : s.le b a) : s.Ties a b := by
  rcases before_or_ties_of_le h with hbefore | hties
  · exact absurd (before_or_ties_of_le h') hbefore.not_before_or_ties
  · exact hties

lemma pairwise_sortAlbums (s : Sorting) (albums : List Album) :
    (sortAlbums s albums).Pairwise (s.le · ·) := by
  unfold sortAlbums
  exact List.pairwise_mergeSort (@Sorting.le_trans s) s.le_total albums

/-- A sort keeps the albums of one key in their order. -/
lemma filter_key_sortAlbums (s : Sorting) (k : s.field.Key) (albums : List Album) :
    (sortAlbums s albums).filter (s.field.key · = k) = albums.filter (s.field.key · = k) := by
  have hties : (albums.filter (s.field.key · = k)).Pairwise (s.le · ·) := by
    refine List.pairwise_of_forall_mem_list fun a ha b hb => Sorting.le_of_ties ?_
    rw [List.mem_filter, decide_eq_true_eq] at ha hb
    exact hb.2.trans ha.2.symm
  have hsorted : (albums.filter (s.field.key · = k)).Sublist (sortAlbums s albums) := by
    unfold sortAlbums
    exact List.sublist_mergeSort (@Sorting.le_trans s) s.le_total hties List.filter_sublist
  -- they stay in their order, and a permutation has as many of them as the list
  have hkept := hsorted.filter (s.field.key · = k)
  simp only [List.filter_filter, Bool.and_self] at hkept
  have hperm := (List.mergeSort_perm albums s.le).filter (s.field.key · = k)
  exact (hkept.eq_of_length hperm.length_eq.symm).symm

lemma mem_iff_of_filter_key_eq {field : SortField}
    (hkeys : ∀ k, albums.filter (field.key · = k) = albums'.filter (field.key · = k)) (a : Album) :
    a ∈ albums ↔ a ∈ albums' := by
  have hself : ∀ l : List Album, a ∈ l ↔ a ∈ l.filter (field.key · = field.key a) := by
    intro l
    rw [List.mem_filter, decide_eq_true rfl, and_iff_left rfl]
  rw [hself albums, hkeys, ← hself albums']

/-- Both heads are first in order, so they have the same key, and of that key they come first. -/
lemma head_eq_of_filter_key_eq {a b : Album} (h : (a :: albums).Pairwise (s.le · ·))
    (h' : (b :: albums').Pairwise (s.le · ·))
    (hkeys : ∀ k, (a :: albums).filter (s.field.key · = k) =
      (b :: albums').filter (s.field.key · = k)) : a = b := by
  rcases List.mem_cons.mp ((mem_iff_of_filter_key_eq hkeys b).mpr List.mem_cons_self) with rfl | hb
  · rfl
  rcases List.mem_cons.mp ((mem_iff_of_filter_key_eq hkeys a).mp List.mem_cons_self) with rfl | ha
  · rfl
  have hties : s.Ties a b :=
    Sorting.ties_of_le_of_le (List.rel_of_pairwise_cons h hb) (List.rel_of_pairwise_cons h' ha)
  have hkey : s.field.key b = s.field.key a := hties.symm
  have hheads := hkeys (s.field.key a)
  simp only [List.filter_cons, hkey, decide_true, if_true] at hheads
  exact List.head_eq_of_cons_eq hheads

/-- Sorted lists that have the same albums of each key, in the same order, are the same. -/
lemma eq_of_filter_key_eq (h : albums.Pairwise (s.le · ·)) (h' : albums'.Pairwise (s.le · ·))
    (hkeys : ∀ k, albums.filter (s.field.key · = k) = albums'.filter (s.field.key · = k)) :
    albums = albums' := by
  induction albums generalizing albums' with
  | nil =>
    refine (List.eq_nil_iff_forall_not_mem.mpr fun a ha => ?_).symm
    exact List.not_mem_nil ((mem_iff_of_filter_key_eq hkeys a).mpr ha)
  | cons a rest ih =>
    cases albums' with
    | nil => exact absurd ((mem_iff_of_filter_key_eq hkeys a).mp List.mem_cons_self) List.not_mem_nil
    | cons b rest' =>
      obtain rfl : a = b := head_eq_of_filter_key_eq h h' hkeys
      congr 1
      refine ih h.of_cons h'.of_cons fun k => ?_
      have hk := hkeys k
      simp only [List.filter_cons] at hk
      split at hk
      · exact List.tail_eq_of_cons_eq hk
      · exact hk

lemma eq_sortAlbums (h : albums.Pairwise (s.le · ·))
    (hkeys : ∀ k, albums.filter (s.field.key · = k) = albums'.filter (s.field.key · = k)) :
    albums = sortAlbums s albums' :=
  eq_of_filter_key_eq h (pairwise_sortAlbums s albums') fun k =>
    (hkeys k).trans (filter_key_sortAlbums s k albums').symm

lemma filter_sortAlbums (s : Sorting) (passes : Album → Bool) (albums : List Album) :
    (sortAlbums s albums).filter passes = sortAlbums s (albums.filter passes) := by
  refine eq_sortAlbums ((pairwise_sortAlbums s albums).filter passes) fun k => ?_
  rw [List.filter_comm, filter_key_sortAlbums, List.filter_comm]

end Keys

/-! ### Lists in another order -/

/-- The second list has the albums of the first one, moved in any way that lets albums with the same
key follow each other as before. Albums are told apart by their places in the first list. -/
def KeepsTies (field : SortField) (albums albums' : List Album) : Prop :=
  ∃ moved : List (Album × Nat), moved.Perm albums.zipIdx ∧ moved.map Prod.fst = albums' ∧
    moved.Pairwise fun x y => field.key x.1 = field.key y.1 → x.2 < y.2

lemma KeepsTies.filter_key {field : SortField} {albums albums' : List Album}
    (h : KeepsTies field albums albums') (k : field.Key) :
    albums'.filter (field.key · = k) = albums.filter (field.key · = k) := by
  obtain ⟨moved, hperm, rfl, hplaces⟩ := h
  let ofKey : Album × Nat → Bool := fun x => field.key x.1 = k
  have hmoved : (moved.filter ofKey).Pairwise fun x y => x.2 < y.2 := by
    refine (hplaces.filter ofKey).imp_of_mem fun {x y} hx hy hlt => hlt ?_
    have hkey := (List.mem_filter.mp hx).2
    have hkey' := (List.mem_filter.mp hy).2
    exact (decide_eq_true_eq.mp hkey).trans (decide_eq_true_eq.mp hkey').symm
  have hfirst : (albums.zipIdx.filter ofKey).Pairwise fun x y => x.2 < y.2 :=
    (zipIdx_places_lt albums).filter ofKey
  have hsame : moved.filter ofKey = albums.zipIdx.filter ofKey :=
    List.Perm.eq_of_pairwise (fun _ _ _ _ hlt hgt => absurd hgt hlt.asymm) hmoved hfirst
      (hperm.filter ofKey)
  have hmap : ∀ l : List (Album × Nat),
      (l.map Prod.fst).filter (field.key · = k) = (l.filter ofKey).map Prod.fst := fun _ =>
    List.filter_map
  rw [hmap, hsame, ← hmap, List.zipIdx_map_fst]

lemma KeepsTies.sortAlbums_eq {s : Sorting} {albums albums' : List Album}
    (h : KeepsTies s.field albums albums') : sortAlbums s albums' = sortAlbums s albums :=
  eq_sortAlbums (pairwise_sortAlbums s albums') fun k =>
    (filter_key_sortAlbums s k albums').trans (h.filter_key k)

/-! ### Queries -/

/-- What a query gives, apart from which albums it left out. -/
def Page.summary (p : Page) : List Album × Nat × Nat :=
  (p.albums, p.total, p.skipped)

/-- What a screening leaves to be put on pages after a sort. -/
def Screened.sorted (s : Sorting) (r : Screened) : List Album × Nat :=
  (sortAlbums s r.passed, r.unresolved.length)

section Congruence

variable {s : Sorting} {albums albums' : List Album}

lemma screen_sorted_congr (f : Filter) (strict : Bool)
    (h : sortAlbums s albums' = sortAlbums s albums) :
    Screened.sorted s <$> screen f strict albums' = Screened.sorted s <$> screen f strict albums := by
  have hlength : albums'.length = albums.length := by
    have hsorted := congrArg List.length h
    simpa only [sortAlbums, List.length_mergeSort] using hsorted
  rcases f.matches_uniform with ⟨e, he⟩ | hanswers
  · cases strict with
    | false =>
      rw [screen_lenient_of_error he, screen_lenient_of_error he]
      change Except.ok _ = Except.ok _
      simp only [Screened.sorted, List.length_map, hlength]
    | true =>
      rcases List.eq_nil_or_concat albums with rfl | ⟨rest, a, rfl⟩
      · rw [List.eq_nil_of_length_eq_zero hlength]
      · have hne' : albums' ≠ [] := by
          rintro rfl
          simp at hlength
        rw [screen_strict_of_error he hne', screen_strict_of_error he (by simp)]
  · rw [screen_eq_filter hanswers, screen_eq_filter hanswers]
    change Except.ok _ = Except.ok _
    simp only [Screened.sorted, ← filter_sortAlbums, h]

lemma Query.screened_sorted_congr (q : Query) (h : sortAlbums s albums' = sortAlbums s albums) :
    Screened.sorted s <$> q.screened albums' = Screened.sorted s <$> q.screened albums := by
  unfold screened
  cases q.filter with
  | none => exact congrArg (fun sorted => Except.ok (sorted, 0)) h
  | some f => exact screen_sorted_congr f q.strict h

end Congruence

lemma Query.summary_run (q : Query) (s : Sorting) (albums : List Album) :
    Page.summary <$> Query.run { q with sorting := some s } albums =
      (fun r => (q.paginate r.1, r.1.length, r.2)) <$>
        Screened.sorted s <$> q.screened albums := by
  have hscreened : Query.screened { q with sorting := some s } albums = q.screened albums := rfl
  rw [run, hscreened]
  cases q.screened albums <;> rfl

lemma Filter.eq_nil_of_select_eq_ok {f : Filter} {e : EvalError} (h : ∀ a, f.matches a = .error e)
    {albums passed : List Album} (hok : f.select albums = .ok passed) : albums = [] := by
  cases albums with
  | nil => rfl
  | cons a rest =>
    rw [select, h a] at hok
    cases hok

/-- Unless the filter fails on the list, a query without a page that filters and sorts gives what the
filter selects from the sorted list, whether the query is strict or not. And a list that differs from
another one only in the order of albums with different keys gives the same page of the same total with
as many albums left out, or the same error, in every query that is sorted by the key. -/
theorem filter_and_sort_commute (s : Sorting) :
    (∀ (f : Filter) (strict : Bool) (albums : List Album),
      (∃ passed, f.select albums = .ok passed) →
        ∃ page, Query.run { filter := some f, sorting := some s, strict := strict } albums = .ok page ∧
          f.select (sortAlbums s albums) = .ok page.albums) ∧
    ∀ (q : Query) (albums albums' : List Album), KeepsTies s.field albums albums' →
      Page.summary <$> Query.run { q with sorting := some s } albums' =
        Page.summary <$> Query.run { q with sorting := some s } albums := by
  refine ⟨?_, ?_⟩
  · rintro f strict albums ⟨passed, hpassed⟩
    rcases f.matches_uniform with ⟨e, he⟩ | hanswers
    · obtain rfl := Filter.eq_nil_of_select_eq_ok he hpassed
      have hnone : sortAlbums s [] = [] := List.mergeSort_nil
      exact ⟨_, Query.run_filtered f (some s) strict [],
        (congrArg f.select hnone).trans (congrArg Except.ok hnone.symm)⟩
    · have hrun := Query.run_filtered f (some s) strict albums
      rw [screen_eq_filter hanswers] at hrun
      refine ⟨_, hrun, ?_⟩
      rw [Filter.select_eq_filter hanswers, filter_sortAlbums]
      rfl
  · intro q albums albums' h
    rw [q.summary_run, q.summary_run, q.screened_sorted_congr h.sortAlbums_eq]

/-- An album is moved in front of one with another name, and the two with the same name stay in their
order; the owners of all but the first pass the filter. -/
theorem filter_and_sort_of_moved_album :
    let album := fun id name owner => (⟨id, name, "", "", owner,
      .midnight ⟨2022, 2, 1, by decide⟩, [], [], []⟩ : Album)
    let p := album ⟨1, by decide⟩ "a" "x"
    let q := album ⟨2, by decide⟩ "b" "y"
    let r := album ⟨3, by decide⟩ "a" "y"
    let f : Filter := ⟨.field "owner", .eq, .text "y"⟩
    let s : Sorting := ⟨.name, .reverse⟩
    KeepsTies .name [p, q, r] [q, p, r] ∧
      (∃ page, Query.run { filter := some f, sorting := some s } [p, q, r] = .ok page ∧
        page.albums = [q, r]) ∧
      Page.summary <$> Query.run { filter := some f, sorting := some s, offset := 1, limit := 1 }
          [q, p, r] =
        Page.summary <$> Query.run { filter := some f, sorting := some s, offset := 1, limit := 1 }
          [p, q, r] := by
  intro album p q r f s
  have hne : "b" ≠ "a" := by decide
  have hties : KeepsTies .name [p, q, r] [q, p, r] := by
    refine ⟨[(q, 1), (p, 0), (r, 2)], by decide, rfl, ?_⟩
    simp only [List.pairwise_cons, List.forall_mem_cons, List.not_mem_nil, false_implies,
      implies_true, and_true, List.Pairwise.nil]
    exact ⟨⟨fun h => absurd h hne, fun h => absurd h hne⟩, fun _ => by decide⟩
  have hsorted : sortAlbums s [p, q, r] = [q, p, r] := by
    rw [← hties.sortAlbums_eq]
    exact List.mergeSort_of_pairwise (by decide)
  have hselected : f.select [q, p, r] = .ok [q, r] := by decide +kernel
  obtain ⟨hcommute, hmoved⟩ := filter_and_sort_commute s
  obtain ⟨page, hpage, halbums⟩ := hcommute f false [p, q, r] ⟨[q, r], by decide +kernel⟩
  rw [hsorted, hselected] at halbums
  exact ⟨hties, ⟨page, hpage, (Except.ok.inj halbums).symm⟩,
    hmoved { filter := some f, offset := 1, limit := 1 } _ _ hties⟩

end AlbumCatalog
