import AlbumCatalog.Listing.Albums
import AlbumCatalog.Proofs.AnsiCodes
import AlbumCatalog.Proofs.CalendarText
import AlbumCatalog.Proofs.ItemSearch
import Mathlib.Data.List.Basic
import Mathlib.Data.List.Forall2
import Mathlib.Data.List.Infix
import Mathlib.Data.String.Basic

/-!
# Columns of the table of albums

Every line of the table has its cells at the same columns, counted in characters, as long as the
numbers and years are not too long: what is longer than its cell is shortened, what is shorter is
filled up with blanks, and the name at the end has no bounds. Colors put codes around the header and
around each name, behind all cells of a fixed width, so the columns stay where they are.
-/

namespace AlbumCatalog

/-! ### Cells -/

/-- From one column up to another the line holds the text and behind it blanks, at least one. -/
def HoldsCell (line : List Char) (start stop : Nat) (text : List Char) : Prop :=
  ∃ blanks, start + text.length + (blanks + 1) = stop ∧
    text ++ List.replicate (blanks + 1) ' ' <+: line.drop start

/-- What is shown of a text where there is room for so many characters. -/
structure ShownWithin (most : Nat) (text shown : List Char) : Prop where
  whole : text.length ≤ most → shown = text
  length_eq : most < text.length → shown.length = most
  dots : most < text.length → ∃ start, start <+: text ∧ shown = start ++ ['.', '.', '.']

lemma length_padRight {width : Nat} {s : List Char} (h : s.length ≤ width) :
    (padRight width s).length = width := by
  simp only [padRight, List.length_append, List.length_replicate]
  omega

lemma drop_padRight {width : Nat} {s : List Char} (h : s.length ≤ width) (line : List Char)
    (k : Nat) : (padRight width s ++ ' ' :: line).drop (width + 1 + k) = line.drop k := by
  have hsplit : padRight width s ++ ' ' :: line = padRight width s ++ [' '] ++ line :=
    List.append_cons _ _ _
  have hlength : (padRight width s ++ [' ']).length = width + 1 := by
    rw [List.length_append, length_padRight h, List.length_singleton]
  rw [hsplit, ← hlength, List.drop_append, List.drop_eq_nil_of_le (Nat.le_add_right _ _),
    List.nil_append, Nat.add_sub_cancel_left]

lemma holdsCell_first {width : Nat} {text : List Char} (h : text.length ≤ width)
    (line : List Char) : HoldsCell (padRight width text ++ ' ' :: line) 0 (width + 1) text := by
  refine ⟨width - text.length, by omega, line, ?_⟩
  rw [List.drop_zero, padRight, List.replicate_succ', List.append_assoc, List.append_assoc,
    List.append_assoc, List.singleton_append]

lemma HoldsCell.after {width start stop : Nat} {s line text : List Char} (hs : s.length ≤ width)
    (h : HoldsCell line start stop text) :
    HoldsCell (padRight width s ++ ' ' :: line) (width + 1 + start) (width + 1 + stop) text := by
  obtain ⟨blanks, hstop, hprefix⟩ := h
  refine ⟨blanks, by omega, ?_⟩
  rwa [drop_padRight hs]

lemma shownWithin_truncate {most : Nat} (h : 3 ≤ most) (text : List Char) :
    ShownWithin most text (truncate most text) := by
  unfold truncate
  refine ⟨fun hle => if_neg (Nat.not_lt.mpr hle), fun hlt => ?_, fun hlt => ?_⟩
  · rw [if_pos hlt]
    simp only [List.length_append, List.length_take, List.length_cons, List.length_nil]
    omega
  · rw [if_pos hlt]
    exact ⟨_, List.take_prefix _ _, rfl⟩

lemma ShownWithin.length_le {most : Nat} {text shown : List Char}
    (h : ShownWithin most text shown) : shown.length ≤ most := by
  by_cases hle : text.length ≤ most
  · rwa [h.whole hle]
  · exact (h.length_eq (Nat.not_le.mp hle)).le

/-! ### Lines -/

/-- The line holds the six texts, each at its column, and the last one up to its end. -/
structure IsRow (line id date owner location tags name : List Char) : Prop where
  id : HoldsCell line 0 7 id
  date : HoldsCell line 7 19 date
  owner : HoldsCell line 19 32 owner
  location : HoldsCell line 32 48 location
  tags : HoldsCell line 48 69 tags
  name : line.drop 69 = name

lemma isRow_albumLine {id date owner location tags : List Char} (name : List Char)
    (hid : id.length ≤ 6) (hdate : date.length ≤ 11) (howner : owner.length ≤ 12)
    (hlocation : location.length ≤ 15) (htags : tags.length ≤ 20) :
    IsRow (albumLine id date owner location tags name) id date owner location tags name := by
  have hline : albumLine id date owner location tags name =
      padRight 6 id ++ ' ' :: (padRight 11 date ++ ' ' :: (padRight 12 owner ++
        ' ' :: (padRight 15 location ++ ' ' :: (padRight 20 tags ++ ' ' :: name)))) := by
    simp only [albumLine, List.append_assoc, List.cons_append]
  rw [hline]
  constructor
  · exact holdsCell_first hid _
  · exact .after hid (holdsCell_first hdate _)
  · exact .after hid (.after hdate (holdsCell_first howner _))
  · exact .after hid (.after hdate (.after howner (holdsCell_first hlocation _)))
  · exact .after hid (.after hdate (.after howner (.after hlocation (holdsCell_first htags _))))
  · calc
      _ = _ := drop_padRight hid _ 62
      _ = _ := drop_padRight hdate _ 50
      _ = _ := drop_padRight howner _ 37
      _ = _ := drop_padRight hlocation _ 21
      _ = name := drop_padRight htags _ 0

/-- The line of the table for an album. -/
def Album.ShownIn (a : Album) (line : List Char) : Prop :=
  ∃ owner location tags,
    IsRow line (decimalInt a.id) a.createdAt.date.dayText owner location tags a.name.toList ∧
      ShownWithin 12 a.owner.toList owner ∧ ShownWithin 15 a.location.toList location ∧
      ShownWithin 20 ([' '].intercalate (a.tags.map fun t => '#' :: t.toList)) tags

lemma tagsCell_eq (most : Nat) (tags : List String) :
    tagsCell most tags = truncate most ([' '].intercalate (tags.map fun t => '#' :: t.toList)) := by
  have hhash : ∀ t : String, ("#" ++ t).toList = '#' :: t.toList := fun t => by
    rw [String.toList_append]
    rfl
  rw [tagsCell, String.toList_intercalate, List.map_map]
  congr 2
  exact List.map_congr_left fun t _ => hhash t

lemma Date.length_dayText {d : Date} (h : 0 ≤ d.year) (h' : d.year ≤ 9999) :
    d.dayText.length = 10 := by
  obtain ⟨-, -, -, hmonth, -, -⟩ := d.valid
  have hday := d.day_le
  have hyear : yearText d.year = padded 4 d.year.natAbs := by
    rw [yearText, if_neg (by omega), if_pos (by omega)]
  rw [dayText, hyear, List.length_append, List.length_cons, List.length_append, List.length_cons,
    length_padded (by omega) (by omega), length_padded (by omega) (by omega),
    length_padded (by omega) (by omega)]

lemma Album.shownIn_line {a : Album} (hid : (decimalInt a.id).length ≤ 6)
    (hyear : 0 ≤ a.createdAt.date.year) (hyear' : a.createdAt.date.year ≤ 9999) :
    a.ShownIn (a.line false) := by
  have howner : ShownWithin 12 a.owner.toList _ := shownWithin_truncate (by omega) _
  have hlocation : ShownWithin 15 a.location.toList _ := shownWithin_truncate (by omega) _
  have htags : ShownWithin 20 ([' '].intercalate (a.tags.map fun t => '#' :: t.toList)) _ :=
    shownWithin_truncate (by omega) _
  have hdate := (Date.length_dayText hyear hyear').le.trans (by omega : 10 ≤ 11)
  rw [← tagsCell_eq] at htags
  exact ⟨_, _, _, isRow_albumLine _ hid hdate howner.length_le hlocation.length_le htags.length_le,
    howner, hlocation, htags⟩

/-! ### Characters of a line -/

/-- The character stands in none of the texts that the table shows. -/
structure Album.Lacks (a : Album) (x : Char) : Prop where
  name : x ∉ a.name.toList
  owner : x ∉ a.owner.toList
  location : x ∉ a.location.toList
  tags : ∀ t ∈ a.tags, x ∉ t.toList

section Control

variable {x : Char} (hx : x < ' ')

include hx

lemma not_mem_truncate {most : Nat} {s : List Char} (h : x ∉ s) : x ∉ truncate most s := by
  unfold truncate
  split
  · rw [List.mem_append, not_or]
    have hdot := ne_of_control hx (show ' ' ≤ '.' by decide)
    exact ⟨fun hs => h (List.mem_of_mem_take hs), by simp [hdot]⟩
  · exact h

lemma not_mem_decimalInt (n : Int) : x ∉ decimalInt n := by
  have hdigits := not_mem_decimal hx n.natAbs
  unfold decimalInt
  split
  · rw [List.mem_cons, not_or]
    exact ⟨ne_of_control hx (by decide), hdigits⟩
  · exact hdigits

lemma not_mem_dayText (d : Date) : x ∉ d.dayText := by
  intro h
  rcases Date.mem_dayText h with h | h | h | h
  · exact not_isDigit_of_control hx h
  all_goals exact ne_of_control hx (by decide) h

lemma not_mem_tagsCell {most : Nat} {tags : List String} (h : ∀ t ∈ tags, x ∉ t.toList) :
    x ∉ tagsCell most tags := by
  rw [tagsCell_eq]
  apply not_mem_truncate hx
  have hblank : [x] ≠ [] ∧ ' ' ∉ [x] := by simpa using (ne_of_control hx le_rfl).symm
  rw [← List.singleton_infix_iff, infix_intercalate_iff hblank.1 hblank.2]
  rintro ⟨item, hitem, hmem⟩
  obtain ⟨t, ht, rfl⟩ := List.mem_map.mp hitem
  rcases List.mem_cons.mp ((List.singleton_infix_iff x _).mp hmem) with hhash | hmem
  · exact ne_of_control hx (by decide) hhash
  · exact h t ht hmem

lemma not_mem_albumLine {id date owner location tags name : List Char} (hid : x ∉ id)
    (hdate : x ∉ date) (howner : x ∉ owner) (hlocation : x ∉ location) (htags : x ∉ tags)
    (hname : x ∉ name) : x ∉ albumLine id date owner location tags name := by
  have hblank := ne_of_control hx le_rfl
  simp only [albumLine, List.mem_append, List.mem_cons, not_or]
  exact ⟨⟨⟨⟨⟨not_mem_padRight hx hid, hblank, not_mem_padRight hx hdate⟩,
    hblank, not_mem_padRight hx howner⟩, hblank, not_mem_padRight hx hlocation⟩,
    hblank, not_mem_padRight hx htags⟩, hblank, hname⟩

lemma not_mem_albumHeader : x ∉ albumHeader :=
  not_mem_of_printable hx rfl

lemma Album.not_mem_line {a : Album} (ha : a.Lacks x) : x ∉ a.line false :=
  not_mem_albumLine hx (not_mem_decimalInt hx a.id) (not_mem_dayText hx _)
    (not_mem_truncate hx ha.owner) (not_mem_truncate hx ha.location) (not_mem_tagsCell hx ha.tags)
    ha.name

end Control

/-! ### The table -/

/-- Lines that end with a line feed each are told apart again. -/
lemma splitOn_lines {lines : List (List Char)} (h : ∀ line ∈ lines, '\n' ∉ line) :
    (lines.flatMap (· ++ ['\n'])).splitOn '\n' = lines ++ [[]] := by
  have hjoin : lines.flatMap (· ++ ['\n']) = ['\n'].intercalate (lines ++ [[]]) := by
    clear h
    induction lines with
    | nil => rfl
    | cons line lines ih =>
      have hne : lines ++ [[]] ≠ [] := by simp
      rw [List.flatMap_cons, ih, List.cons_append, List.intercalate_cons_of_ne_nil hne]
  rw [hjoin]
  refine List.splitOn_intercalate '\n' ?_ (by simp)
  rw [List.forall_mem_append, List.forall_mem_singleton]
  exact ⟨h, List.not_mem_nil⟩

lemma albumTable_of_ne_nil {albums : List Album} (h : albums ≠ []) (colors : Bool) :
    (albumTable colors albums).toList = Style.dimmed.paintIf colors albumHeader ++
      '\n' :: albums.flatMap fun a => a.line colors ++ ['\n'] := by
  cases albums with
  | nil => exact absurd rfl h
  | cons a rest =>
    unfold albumTable
    exact String.toList_ofList

lemma albumTable_eq_lines {albums : List Album} (h : albums ≠ []) :
    (albumTable false albums).toList =
      (albumHeader :: albums.map (Album.line false)).flatMap (· ++ ['\n']) := by
  rw [albumTable_of_ne_nil h, List.flatMap_cons, List.flatMap_map, List.append_cons]
  rfl

/-- The name is the last cell, so its codes come behind all blanks. -/
lemma Album.Lacks.stripsTo_line {a : Album} (h : a.Lacks '\x1b') :
    StripsTo (a.line true) (a.line false) := by
  have hsplit : ∀ colors, a.line colors = albumLine (decimalInt a.id) a.createdAt.date.dayText
      (truncate 12 a.owner.toList) (truncate 15 a.location.toList) (tagsCell 20 a.tags) [] ++
        Style.bold.paintIf colors a.name.toList := by
    intro colors
    simp only [line, albumLine, List.append_assoc, List.cons_append, List.nil_append]
  have hline := Album.not_mem_line (by decide) h
  rw [hsplit, List.mem_append, not_or] at hline
  rw [hsplit, hsplit]
  exact (stripsTo_self hline.1).append (Style.bold.stripsTo_paint h.name)

lemma withoutCodes_albumTable {albums : List Album} (h : ∀ a ∈ albums, a.Lacks '\x1b') :
    withoutCodes (albumTable true albums).toList = (albumTable false albums).toList := by
  apply StripsTo.withoutCodes_eq
  by_cases hne : albums = []
  · subst hne
    exact stripsTo_self (by decide)
  · rw [albumTable_of_ne_nil hne, albumTable_of_ne_nil hne]
    exact stripsTo_table (not_mem_albumHeader (by decide)) fun a ha => (h a ha).stripsTo_line

/-- The plain table of some albums is a header and then a line for each album in its order, if none of
the texts it shows holds a line feed. Where the numbers have at most six characters and the years are
those from 0 to 9999, each line holds the date from column 7 on, the owner from 19, the location from
32, the tags from 48 and the name from 69 up to its end. Owner, location and tags have room for 12, 15
and 20 characters. The colored table of any albums without escape characters in these texts is the
plain one once its codes are taken out. -/
theorem album_table_is_aligned :
    (∀ albums : List Album, albums ≠ [] →
      (∀ a ∈ albums, a.Lacks '\n' ∧ (decimalInt a.id).length ≤ 6 ∧
        0 ≤ a.createdAt.date.year ∧ a.createdAt.date.year ≤ 9999) →
      ∃ header lines,
        (albumTable false albums).toList.splitOn '\n' = header :: lines ++ [[]] ∧
        IsRow header "ID".toList "Date".toList "Owner".toList "Location".toList "Tags".toList
          "Name".toList ∧
        List.Forall₂ Album.ShownIn albums lines) ∧
    ∀ albums : List Album, (∀ a ∈ albums, a.Lacks '\x1b') →
      withoutCodes (albumTable true albums).toList = (albumTable false albums).toList := by
  refine ⟨?_, fun albums h => withoutCodes_albumTable h⟩
  intro albums hne halbums
  refine ⟨albumHeader, albums.map (Album.line false), ?_, ?_, ?_⟩
  · rw [albumTable_eq_lines hne]
    apply splitOn_lines
    rw [List.forall_mem_cons]
    refine ⟨not_mem_albumHeader (by decide), ?_⟩
    intro line hline
    obtain ⟨a, ha, rfl⟩ := List.mem_map.mp hline
    exact Album.not_mem_line (by decide) (halbums a ha).1
  · apply isRow_albumLine <;> decide
  · rw [List.forall₂_map_right_iff, List.forall₂_same]
    intro a ha
    obtain ⟨-, hid, hyear, hyear'⟩ := halbums a ha
    exact Album.shownIn_line hid hyear hyear'

/-- The owner just fits its cell, location and tags are cut; the year is the first with four digits. -/
theorem album_table_at_width_limits :
    let a : Album := ⟨⟨-99999, by decide⟩, "Été à Montréal", "", "Sankt Petersburg", "ÄÖÜäöüßÄÖÜäö",
      .midnight ⟨0, 2, 29, by decide⟩, ["sea", "summer", "été 2022"], [], []⟩
    (a.Lacks '\n' ∧ (decimalInt a.id).length ≤ 6 ∧ 0 ≤ a.createdAt.date.year ∧
      a.createdAt.date.year ≤ 9999) ∧ a.Lacks '\x1b' ∧
      (∃ header line, (albumTable false [a]).toList.splitOn '\n' = [header, line, []] ∧
        a.ShownIn line) ∧
      withoutCodes (albumTable true [a]).toList = (albumTable false [a]).toList := by
  intro a
  have hfeed : a.Lacks '\n' := ⟨by decide, by decide, by decide, by decide⟩
  have hescape : a.Lacks '\x1b' := ⟨by decide, by decide, by decide, by decide⟩
  have hbounds : a.Lacks '\n' ∧ (decimalInt a.id).length ≤ 6 ∧ 0 ≤ a.createdAt.date.year ∧
      a.createdAt.date.year ≤ 9999 := ⟨hfeed, by decide +kernel, by decide, by decide⟩
  obtain ⟨haligned, hplain⟩ := album_table_is_aligned
  obtain ⟨header, lines, hsplit, -, hlines⟩ :=
    haligned [a] (List.cons_ne_nil a []) (List.forall_mem_singleton.mpr hbounds)
  refine ⟨hbounds, hescape, ?_, hplain [a] (List.forall_mem_singleton.mpr hescape)⟩
  cases hlines with
  | @cons _ line _ _ hline hrest =>
    cases hrest
    exact ⟨header, line, hsplit, hline⟩

end AlbumCatalog
