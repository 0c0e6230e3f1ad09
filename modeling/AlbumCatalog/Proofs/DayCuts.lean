import AlbumCatalog.Proofs.CalendarDays
import AlbumCatalog.Proofs.FieldComparison

/-!
# Days as cuts of the time line

A comparison of dates reads a day and cuts the time line at its midnight. The orders look at the side
on which the instant of an album lies and leave out the midnight itself; equality looks at the stretch
from one midnight to the next. So the six operators fit together, and how the day is written does not
matter.
-/

namespace AlbumCatalog

/-- The filter `date op text`. -/
def dayFilter (op : TokenKind) (text : String) : Filter :=
  ⟨.field "date", op, .text text⟩

section Day

variable {s : String} {d : Date}

lemma matches_dayFilter (hs : Date.ofDayText? s.toList = some d) {op : TokenKind}
    (hop : op.isEquality ∨ op.isOrder) (a : Album) :
    (dayFilter op s).matches a = .ok (op.relatesDay d a.createdAt) := by
  have htest : (dayFilter op s).matches a = (· a) <$> Field.date.test op (.text s) :=
    matches_comparison .date (TokenKind.isComparison_of_isEquality_or_isOrder hop) (.text s) a
  have hday : expectDay (.text s) = .ok d := by
    simp only [expectDay, expectText, bind, Except.bind, hs]
  rw [htest, Field.test, dateTest_eq_relatesDay hop, hday]
  rfl

/-- How the day is spelled makes no difference, whatever the operator: one that dates do not have is
refused for both spellings. -/
lemma matches_dayFilter_congr {s' : String} (hs : Date.ofDayText? s.toList = some d)
    (hs' : Date.ofDayText? s'.toList = some d) (op : TokenKind) (a : Album) :
    (dayFilter op s').matches a = (dayFilter op s).matches a := by
  have htest : dateTest op (.text s') = dateTest op (.text s) := by
    simp only [dateTest, expectText, bind, Except.bind, hs, hs']
  rw [Filter.matches_eq_meaning, Filter.matches_eq_meaning]
  simp only [dayFilter, Filter.toExpr, Expr.meaning]
  split
  · rfl
  · change (· a) <$> Field.date.test op _ = (· a) <$> Field.date.test op _
    rw [Field.test, Field.test, htest]

end Day

/-- An instant lies on one side of a midnight, or on the other, or is that midnight. -/
lemma Instant.side_of_midnight (t : Instant) (d : Date) :
    t < midnight d ∧ ¬ midnight d < t ∧ t ≠ midnight d ∨
      ¬ t < midnight d ∧ midnight d < t ∧ t ≠ midnight d ∨
      ¬ t < midnight d ∧ ¬ midnight d < t ∧ t = midnight d := by
  rcases lt_trichotomy t (midnight d) with h | h | h
  · exact .inl ⟨h, h.asymm, h.ne⟩
  · exact .inr (.inr ⟨h.not_lt, h.not_gt, h⟩)
  · exact .inr (.inl ⟨h.asymm, h, h.ne'⟩)

/-- The filters `date < s` and `date <= s` pass the albums that were made before the midnight of the
day `s`, `date > s` and `date >= s` those made after it; the midnight itself is on neither side. The
albums that `date = s` passes are those from the midnight on that were made before that of the day
after, if there is one, and `date != s` passes all others. What is before a day is before every later
day, and what is after a day is after every earlier one. How a day is written makes no difference for
any operator. -/
theorem date_operators_cut_time_line (a : Album) {s : String} {d : Date}
    (hs : Date.ofDayText? s.toList = some d) :
    let answer := fun op text => (dayFilter op text).matches a
    (answer .lt s = .ok (decide (a.createdAt < .midnight d)) ∧ answer .le s = answer .lt s) ∧
    (answer .gt s = .ok (decide (.midnight d < a.createdAt)) ∧ answer .ge s = answer .gt s) ∧
    (answer .lt s = .ok true ∧ answer .gt s = .ok false ∧ a.createdAt ≠ .midnight d ∨
      answer .lt s = .ok false ∧ answer .gt s = .ok true ∧ a.createdAt ≠ .midnight d ∨
      answer .lt s = .ok false ∧ answer .gt s = .ok false ∧ a.createdAt = .midnight d) ∧
    (∃ same, answer .eq s = .ok same ∧ answer .ne s = .ok !same) ∧
    (∀ s' d', Date.ofDayText? s'.toList = some d' → d.next? = some d' →
      (answer .eq s = .ok true ↔ answer .lt s = .ok false ∧ answer .lt s' = .ok true)) ∧
    (d.next? = none → (answer .eq s = .ok true ↔ answer .lt s = .ok false)) ∧
    (∀ s' d', Date.ofDayText? s'.toList = some d' → d ≤ d' →
      (answer .lt s = .ok true → answer .lt s' = .ok true) ∧
      (answer .gt s' = .ok true → answer .gt s = .ok true)) ∧
    ∀ s', Date.ofDayText? s'.toList = some d → ∀ op, answer op s' = answer op s := by
  intro answer
  have hbefore : ∀ {s d}, Date.ofDayText? s.toList = some d →
      answer .lt s = .ok (decide (a.createdAt < .midnight d)) := fun h =>
    matches_dayFilter h (.inr rfl) a
  have hafter : ∀ {s d}, Date.ofDayText? s.toList = some d →
      answer .gt s = .ok (decide (.midnight d < a.createdAt)) := fun h =>
    matches_dayFilter h (.inr rfl) a
  have hsame : answer .eq s = .ok (decide (a.createdAt.date = d)) :=
    matches_dayFilter hs (.inl rfl) a
  have hother : answer .ne s = .ok (decide (a.createdAt.date ≠ d)) :=
    matches_dayFilter hs (.inl rfl) a
  refine ⟨⟨hbefore hs, ?_⟩, ⟨hafter hs, ?_⟩, ?_, ⟨_, hsame, ?_⟩, ?_, ?_, ?_, ?_⟩
  · exact (matches_dayFilter hs (.inr rfl) a).trans (hbefore hs).symm
  · exact (matches_dayFilter hs (.inr rfl) a).trans (hafter hs).symm
  · simpa only [hbefore hs, hafter hs, Except.ok.injEq, decide_eq_true_eq, decide_eq_false_iff_not]
      using a.createdAt.side_of_midnight d
  · rw [hother, decide_not]
  · intro s' d' hs' hnext
    simpa only [hsame, hbefore hs, hbefore hs', Except.ok.injEq, decide_eq_true_eq,
      decide_eq_false_iff_not] using Instant.date_eq_iff hnext
  · intro hlast
    simpa only [hsame, hbefore hs, Except.ok.injEq, decide_eq_true_eq,
      decide_eq_false_iff_not] using Instant.date_eq_iff_of_last hlast
  · intro s' d' hs' hle
    have hmidnight := Instant.midnight_le_midnight hle
    simp only [hbefore hs, hbefore hs', hafter hs, hafter hs', Except.ok.injEq, decide_eq_true_eq]
    exact ⟨fun h => h.trans_le hmidnight, fun h => hmidnight.trans_lt h⟩
  · intro s' hs' op
    exact matches_dayFilter_congr hs hs' op a

/-- An album made in the leap second at the end of a year belongs to the old year, and one made at the
first midnight of the calendar is on neither side of it. -/
theorem date_operators_in_leap_second :
    let made : Instant → Album := fun t => ⟨⟨1, by decide⟩, "n", "", "", "o", t, [], [], []⟩
    let leap := made ⟨⟨2016, 12, 31, by decide⟩, 86399, 1500000000, by decide⟩
    let first := made (.midnight ⟨-262143, 1, 1, by decide⟩)
    Date.ofDayText? "31/12/2016".toList = some ⟨2016, 12, 31, by decide⟩ ∧
      (dayFilter .eq "31/12/2016").matches leap = .ok true ∧
      (dayFilter .gt "31/12/2016").matches leap = (dayFilter .gt " 31/ 12/+2016").matches leap ∧
      (dayFilter .lt "1/1/-262143").matches first = .ok false ∧
      (dayFilter .gt "1/1/-262143").matches first = .ok false := by
  intro made leap first
  have hday : Date.ofDayText? "31/12/2016".toList = some ⟨2016, 12, 31, by decide⟩ := by
    decide +kernel
  have hnext : Date.ofDayText? "1/1/2017".toList = some ⟨2017, 1, 1, by decide⟩ := by decide +kernel
  have hfirst : Date.ofDayText? "1/1/-262143".toList = some ⟨-262143, 1, 1, by decide⟩ := by
    decide +kernel
  obtain ⟨⟨hbefore, -⟩, -, -, -, hsame, -, -, hspelling⟩ := date_operators_cut_time_line leap hday
  obtain ⟨⟨hbefore', -⟩, -⟩ := date_operators_cut_time_line leap hnext
  obtain ⟨⟨hlt, -⟩, ⟨hgt, -⟩, -⟩ := date_operators_cut_time_line first hfirst
  refine ⟨hday, (hsame _ _ hnext (by decide)).mpr ⟨hbefore.trans ?_, hbefore'.trans ?_⟩,
    (hspelling " 31/ 12/+2016" (by decide +kernel) .gt).symm, hlt.trans ?_, hgt.trans ?_⟩
  all_goals decide +kernel

end AlbumCatalog
