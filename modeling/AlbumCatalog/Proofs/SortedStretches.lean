import AlbumCatalog.Proofs.DayCuts
import AlbumCatalog.Proofs.FilteredSorting

/-!
# Comparisons on sorted albums

A sort by name, owner, location or date uses the order that the comparisons of a filter ask for. A
value therefore cuts a sorted list into three stretches: the albums below it, those at it and those
above it, from left to right in a normal sort and from right to left in a reversed one. Each
comparison passes some of these stretches as a whole.
-/

namespace AlbumCatalog

/-! ### Stretches of a sorted list -/

/-- The stretches below, at and above a value, in the direction of a sort. -/
def SortOrder.arrange (order : SortOrder) (below level above : List Album) : List Album :=
  match order with
  | .normal => below ++ level ++ above
  | .reverse => above ++ level ++ below

/-- The value lies above the keys of the first stretch, and below those of the last one. -/
structure CutsAt {β : Type} [LT β] (key : Album → β) (v : β) (below level above : List Album) :
    Prop where
  below : ∀ a ∈ below, key a < v
  level : ∀ a ∈ level, key a = v
  above : ∀ a ∈ above, v < key a

section Cut

variable {β : Type} [LinearOrder β]

lemma exists_cut {key : Album → β} (v : β) {albums : List Album}
    (h : albums.Pairwise (key · ≤ key ·)) :
    ∃ below level above, albums = below ++ level ++ above ∧ CutsAt key v below level above := by
  induction albums with
  | nil => exact ⟨[], [], [], rfl, by simp, by simp, by simp⟩
  | cons a rest ih =>
    obtain ⟨below, level, above, rfl, hcut⟩ := ih h.of_cons
    have hfirst : ∀ b ∈ below ++ level ++ above, key a ≤ key b := fun b hb =>
      List.rel_of_pairwise_cons h hb
    have hbelow : v ≤ key a → below = [] := by
      intro hv
      rw [List.eq_nil_iff_forall_not_mem]
      intro b hb
      exact ((hcut.below b hb).trans_le hv).not_ge (hfirst b (by simp [hb]))
    have hlevel : v < key a → level = [] := by
      intro hv
      rw [List.eq_nil_iff_forall_not_mem]
      intro b hb
      exact ((hcut.level b hb).trans_lt hv).not_ge (hfirst b (by simp [hb]))
    rcases lt_trichotomy (key a) v with hlt | heq | hgt
    · exact ⟨a :: below, level, above, rfl, List.forall_mem_cons.mpr ⟨hlt, hcut.below⟩,
        hcut.level, hcut.above⟩
    · obtain rfl := hbelow heq.ge
      exact ⟨[], a :: level, above, rfl, hcut.below, List.forall_mem_cons.mpr ⟨heq, hcut.level⟩,
        hcut.above⟩
    · obtain rfl := hbelow hgt.le
      obtain rfl := hlevel hgt
      exact ⟨[], [], a :: above, rfl, hcut.below, hcut.level,
        List.forall_mem_cons.mpr ⟨hgt, hcut.above⟩⟩

end Cut

/-- A reversed sort is a normal one in the opposite order of the keys. -/
lemma exists_cut_sortAlbums (field : SortField) (order : SortOrder) (v : field.Key)
    (albums : List Album) :
    ∃ below level above, sortAlbums ⟨field, order⟩ albums = order.arrange below level above ∧
      CutsAt field.key v below level above := by
  have hsorted := pairwise_sortAlbums ⟨field, order⟩ albums
  cases order with
  | normal => exact exists_cut v (hsorted.imp SortField.le_iff_key.mp)
  | reverse =>
    obtain ⟨above, level, below, hsplit, hcut⟩ :=
      exists_cut (OrderDual.toDual v) (hsorted.imp SortField.le_iff_key.mp)
    exact ⟨below, level, above, hsplit, hcut.above, hcut.level, hcut.below⟩

/-! ### Stretches that a filter passes -/

/-- The filter passes all albums of the first list and none of the second. -/
structure Filter.Separates (f : Filter) (passed others : List Album) : Prop where
  passed : ∀ a ∈ passed, f.matches a = .ok true
  others : ∀ a ∈ others, f.matches a = .ok false

/-- The filter `field op value`. -/
def valueFilter (field : Field) (op : TokenKind) (value : String) : Filter :=
  ⟨.field field.text, op, .text value⟩

lemma Filter.separates_of_matches {f : Filter} {p : Album → Prop} [DecidablePred p]
    (hf : ∀ a, f.matches a = .ok (decide (p a))) {passed others : List Album}
    (hpassed : ∀ a ∈ passed, p a) (hothers : ∀ a ∈ others, ¬ p a) : f.Separates passed others where
  passed a ha := by rw [hf a, decide_eq_true (hpassed a ha)]
  others a ha := by rw [hf a, decide_eq_false (hothers a ha)]

lemma matches_valueFilter (t : TextField) {op : TokenKind} (hop : op.isEquality ∨ op.isOrder)
    (v : String) (a : Album) :
    (valueFilter t.field op v).matches a = .ok (op.relates v (t.value a)) := by
  have htest : (valueFilter t.field op v).matches a = (· a) <$> t.field.test op (.text v) :=
    matches_comparison t.field (TokenKind.isComparison_of_isEquality_or_isOrder hop) (.text v) a
  rw [htest, t.test_eq, textTest_eq_relates t.field hop]
  rfl

section Separation

variable {below level above : List Album}

/-- The five comparisons of a field with a text divide the stretches between them. -/
lemma CutsAt.separates_text {t : TextField} {v : String}
    (h : CutsAt t.value v below level above) :
    (valueFilter t.field .lt v).Separates below (level ++ above) ∧
      (valueFilter t.field .le v).Separates (below ++ level) above ∧
      (valueFilter t.field .eq v).Separates level (below ++ above) ∧
      (valueFilter t.field .ge v).Separates (level ++ above) below ∧
      (valueFilter t.field .gt v).Separates above (below ++ level) := by
  refine ⟨?_, ?_, ?_, ?_, ?_⟩
  · apply Filter.separates_of_matches (matches_valueFilter t (.inr rfl) v) h.below
    exact List.forall_mem_append.mpr
      ⟨fun a ha => (h.level a ha).not_lt, fun a ha => (h.above a ha).asymm⟩
  · apply Filter.separates_of_matches (matches_valueFilter t (.inr rfl) v)
    · exact List.forall_mem_append.mpr
        ⟨fun a ha => (h.below a ha).le, fun a ha => (h.level a ha).le⟩
    · exact fun a ha => (h.above a ha).not_ge
  · apply Filter.separates_of_matches (matches_valueFilter t (.inl rfl) v) h.level
    exact List.forall_mem_append.mpr
      ⟨fun a ha => (h.below a ha).ne, fun a ha => (h.above a ha).ne'⟩
  · apply Filter.separates_of_matches (matches_valueFilter t (.inr rfl) v)
    · exact List.forall_mem_append.mpr
        ⟨fun a ha => (h.level a ha).ge, fun a ha => (h.above a ha).le⟩
    · exact fun a ha => (h.below a ha).not_ge
  · apply Filter.separates_of_matches (matches_valueFilter t (.inr rfl) v) h.above
    exact List.forall_mem_append.mpr
      ⟨fun a ha => (h.below a ha).asymm, fun a ha => (h.level a ha).not_gt⟩

lemma CutsAt.separates_day {s : String} {d : Date} (hs : Date.ofDayText? s.toList = some d)
    (h : CutsAt Album.createdAt (.midnight d) below level above) :
    (dayFilter .lt s).Separates below (level ++ above) ∧
      (dayFilter .gt s).Separates above (below ++ level) := by
  constructor
  · apply Filter.separates_of_matches (matches_dayFilter hs (.inr rfl)) h.below
    exact List.forall_mem_append.mpr
      ⟨fun a ha => (h.level a ha).not_lt, fun a ha => (h.above a ha).asymm⟩
  · apply Filter.separates_of_matches (matches_dayFilter hs (.inr rfl)) h.above
    exact List.forall_mem_append.mpr
      ⟨fun a ha => (h.below a ha).asymm, fun a ha => (h.level a ha).not_gt⟩

end Separation

lemma exists_cut_text {field : SortField} {t : TextField} (h : field.text = t.field.text)
    (order : SortOrder) (v : String) (albums : List Album) :
    ∃ below level above, sortAlbums ⟨field, order⟩ albums = order.arrange below level above ∧
      CutsAt t.value v below level above := by
  obtain ⟨rfl, rfl⟩ | ⟨rfl, rfl⟩ | ⟨rfl, rfl⟩ :
      field = .name ∧ t = .name ∨ field = .owner ∧ t = .owner ∨
        field = .location ∧ t = .location := by
    revert h
    cases field <;> cases t <;> decide
  · exact exists_cut_sortAlbums .name order v albums
  · exact exists_cut_sortAlbums .owner order v albums
  · exact exists_cut_sortAlbums .location order v albums

/-- A list that is sorted by a field which filters know as a text under the same name falls into
three stretches for every text: the albums that `<` passes, which `<=` passes too, those that `=`
passes, and those that `>` passes, which `>=` passes too. The first stretch stands on the left in a
normal sort and on the right in a reversed one. A list that is sorted by date falls in the same way
into the albums that `<` passes for a day, those made at the midnight of the day, and those that `>`
passes. -/
theorem comparisons_divide_sorted_albums (order : SortOrder) (albums : List Album) :
    (∀ (field : SortField) (t : TextField), field.text = t.field.text → ∀ v : String,
      ∃ below level above, sortAlbums ⟨field, order⟩ albums = order.arrange below level above ∧
        (valueFilter t.field .lt v).Separates below (level ++ above) ∧
        (valueFilter t.field .le v).Separates (below ++ level) above ∧
        (valueFilter t.field .eq v).Separates level (below ++ above) ∧
        (valueFilter t.field .ge v).Separates (level ++ above) below ∧
        (valueFilter t.field .gt v).Separates above (below ++ level)) ∧
    ∀ (s : String) (d : Date), Date.ofDayText? s.toList = some d →
      ∃ below level above, sortAlbums ⟨.date, order⟩ albums = order.arrange below level above ∧
        (dayFilter .lt s).Separates below (level ++ above) ∧
        (dayFilter .gt s).Separates above (below ++ level) ∧
        (∀ a ∈ level, a.createdAt = .midnight d) ∧
        ∀ a ∈ below ++ above, a.createdAt ≠ .midnight d := by
  constructor
  · intro field t hname v
    obtain ⟨below, level, above, hsplit, hcut⟩ := exists_cut_text hname order v albums
    exact ⟨below, level, above, hsplit, hcut.separates_text⟩
  · intro s d hs
    obtain ⟨below, level, above, hsplit, hcut⟩ :
        ∃ below level above, sortAlbums ⟨.date, order⟩ albums = order.arrange below level above ∧
          CutsAt Album.createdAt (.midnight d) below level above :=
      exists_cut_sortAlbums .date order (.midnight d) albums
    obtain ⟨hlt, hgt⟩ := hcut.separates_day hs
    exact ⟨below, level, above, hsplit, hlt, hgt, hcut.level, List.forall_mem_append.mpr
      ⟨fun a ha => (hcut.below a ha).ne, fun a ha => (hcut.above a ha).ne'⟩⟩

/-- Capital letters come before small ones and these before letters with an accent, in the sort as in
the comparisons; and an album made at a midnight is on neither side of that day. -/
theorem comparisons_divide_reversed_names :
    let day : Date := ⟨2022, 2, 1, by decide⟩
    let album := fun id name created => (⟨id, name, "", "", "o", created, [], [], []⟩ : Album)
    let p := album ⟨1, by decide⟩ "été" (.midnight day)
    let q := album ⟨2, by decide⟩ "Zoo" ⟨day, 0, 1, by decide⟩
    let r := album ⟨3, by decide⟩ "abc" (.midnight ⟨2022, 1, 31, by decide⟩)
    SortField.name.text = TextField.name.field.text ∧
      Date.ofDayText? "1/2/2022".toList = some day ∧
      (∃ below level above, sortAlbums ⟨.name, .reverse⟩ [p, q, r] = above ++ level ++ below ∧
        (valueFilter .name .lt "abc").Separates below (level ++ above) ∧
        (valueFilter .name .eq "abc").Separates level (below ++ above) ∧
        (valueFilter .name .gt "abc").Separates above (below ++ level)) ∧
      ∃ below level above, sortAlbums ⟨.date, .reverse⟩ [p, q, r] = above ++ level ++ below ∧
        (dayFilter .lt "1/2/2022").Separates below (level ++ above) ∧
        (dayFilter .gt "1/2/2022").Separates above (below ++ level) := by
  intro day album p q r
  have hname : SortField.name.text = TextField.name.field.text := rfl
  have hday : Date.ofDayText? "1/2/2022".toList = some day := by decide +kernel
  obtain ⟨htext, hdate⟩ := comparisons_divide_sorted_albums .reverse [p, q, r]
  obtain ⟨below, level, above, hsplit, hlt, -, heq, -, hgt⟩ := htext .name .name hname "abc"
  obtain ⟨before, at_midnight, after, hsplit', hlt', hgt', -⟩ := hdate _ day hday
  exact ⟨hname, hday, ⟨below, level, above, hsplit, hlt, heq, hgt⟩,
    ⟨before, at_midnight, after, hsplit', hlt', hgt'⟩⟩

end AlbumCatalog
