import AlbumCatalog.Listing.Albums
import AlbumCatalog.Proofs.CalendarText
import AlbumCatalog.Proofs.FieldComparison

/-!
# Filters with the dates of the table

A comparison of a field with a text in quotes is read as that comparison, whatever the text is, as
long as it does not have the quote itself in it. The date that the table shows for an album has no
quote, and it is read back as the day on which the album was made.
-/

namespace AlbumCatalog

/-! ### Comparisons in text -/

lemma TokenKind.spelling_name {op : TokenKind} (h : op.isComparison) :
    Spelling ⟨op, ""⟩ op.name.toList := by
  cases op with
  | eq | ne | lt | le | gt | ge => exact .sign rfl
  | like | oneOf => exact .keyword rfl rfl
  | _ => cases h

/-- The comparison of a field with a text, with single quotes around the text. -/
def comparisonText (field : Field) (op : TokenKind) (value : String) : String :=
  field.text ++ " " ++ op.name ++ " '" ++ value ++ "'"

section Comparison

variable (field : Field) {op : TokenKind} {value : String}

lemma layout_comparisonText (hop : op.isComparison) (hvalue : '\'' ∉ value.toList) :
    Layout false [⟨.field, field.text⟩, ⟨op, ""⟩, ⟨.string, value⟩]
      (comparisonText field op value).toList := by
  have hname : Spelling ⟨.field, field.text⟩ field.text.toList := by
    have hspelling := Spelling.field field.isFieldName
    rwa [String.ofList_toList] at hspelling
  have hstring : Spelling ⟨.string, value⟩ ('\'' :: value.toList ++ ['\'']) := by
    have hspelling := Spelling.string (q := '\'') rfl hvalue
    rwa [String.ofList_toList] at hspelling
  have hlayout : Layout false [⟨.field, field.text⟩, ⟨op, ""⟩, ⟨.string, value⟩]
      ([] ++ field.text.toList ++ ([' '] ++ op.name.toList ++
        ([' '] ++ ('\'' :: value.toList ++ ['\'']) ++ []))) :=
    .symbol (List.forall_mem_nil _) (by simp) hname <|
      .symbol isBlank_space (by simp) (TokenKind.spelling_name hop) <|
        .symbol isBlank_space (by simp) hstring (.blanks (List.forall_mem_nil _))
  simpa [comparisonText] using hlayout

lemma parse_comparisonText (hop : op.isComparison) (hvalue : '\'' ∉ value.toList) :
    Filter.parse (comparisonText field op value) =
      .ok ⟨.field field.text, op, .text value⟩ := by
  let chain : Chain := ⟨⟨field.text, op, .text value, field.isFieldName, hop⟩, []⟩
  exact parse_of_layout (c := chain) (layout_comparisonText field hop hvalue)

end Comparison

/-! ### Days -/

/-- The date that stands in the table. -/
def Album.shownDate (a : Album) : String :=
  String.ofList a.createdAt.date.dayText

lemma Album.exists_line_eq (a : Album) (colors : Bool) :
    ∃ rest, a.line colors = padRight 6 (decimalInt a.id) ++ ' ' ::
      padRight 11 a.shownDate.toList ++ ' ' :: rest := by
  refine ⟨padRight 12 (truncate 12 a.owner.toList) ++
    ' ' :: padRight 15 (truncate 15 a.location.toList) ++
      ' ' :: padRight 20 (tagsCell 20 a.tags) ++ ' ' :: Style.bold.paintIf colors a.name.toList, ?_⟩
  simp only [line, albumLine, shownDate, String.toList_ofList, List.append_assoc, List.cons_append]

lemma Album.quote_not_mem_shownDate (a : Album) : '\'' ∉ a.shownDate.toList := by
  rw [shownDate, String.toList_ofList]
  intro h
  rcases Date.mem_dayText h with h | h | h | h <;> exact absurd h (by decide)

/-- The comparisons with the date of the table test the day. -/
lemma Album.test_shownDate (a b : Album) :
    (· b) <$> Field.date.test .eq (.text a.shownDate) =
      .ok (decide (b.createdAt.date = a.createdAt.date)) ∧
    (· b) <$> Field.date.test .ne (.text a.shownDate) =
      .ok (decide (b.createdAt.date ≠ a.createdAt.date)) := by
  have hday : expectDay (.text a.shownDate) = .ok a.createdAt.date := by
    simp only [expectDay, expectText, bind, Except.bind, shownDate, String.toList_ofList,
      Date.ofDayText?_dayText]
  constructor
  · rw [Field.test, dateTest_eq_relatesDay (.inl rfl), hday]
    rfl
  · rw [Field.test, dateTest_eq_relatesDay (.inl rfl), hday]
    rfl

/-- The date in the line of an album, taken as a filter, is read as the day on which the album was
made: the filter passes the albums of that day and no others, and with the other sign those of all
other days. -/
theorem shown_date_selects_day (a : Album) (colors : Bool) :
    (∃ rest, a.line colors = padRight 6 (decimalInt a.id) ++ ' ' ::
      padRight 11 a.shownDate.toList ++ ' ' :: rest) ∧
    ∃ same other : Filter,
      Filter.parse ("date = '" ++ a.shownDate ++ "'") = .ok same ∧
      Filter.parse ("date != '" ++ a.shownDate ++ "'") = .ok other ∧
      same.matches a = .ok true ∧ other.matches a = .ok false ∧
      ∀ b : Album,
        same.matches b = .ok (decide (b.createdAt.date = a.createdAt.date)) ∧
        other.matches b = .ok (decide (b.createdAt.date ≠ a.createdAt.date)) := by
  let day := Expr.text a.shownDate
  have hquote := a.quote_not_mem_shownDate
  have hsame : ∀ b : Album, Filter.matches ⟨.field "date", .eq, day⟩ b =
      .ok (decide (b.createdAt.date = a.createdAt.date)) := fun b =>
    (matches_comparison .date rfl day b).trans (a.test_shownDate b).1
  have hother : ∀ b : Album, Filter.matches ⟨.field "date", .ne, day⟩ b =
      .ok (decide (b.createdAt.date ≠ a.createdAt.date)) := fun b =>
    (matches_comparison .date rfl day b).trans (a.test_shownDate b).2
  refine ⟨a.exists_line_eq colors, ⟨.field "date", .eq, day⟩, ⟨.field "date", .ne, day⟩,
    ?_, ?_, ?_, ?_, fun b => ⟨hsame b, hother b⟩⟩
  · change Filter.parse (comparisonText .date .eq a.shownDate) = _
    exact parse_comparisonText .date rfl hquote
  · change Filter.parse (comparisonText .date .ne a.shownDate) = _
    exact parse_comparisonText .date rfl hquote
  · rw [hsame, decide_eq_true rfl]
  · rw [hother, decide_eq_false (not_not_intro rfl)]

end AlbumCatalog
