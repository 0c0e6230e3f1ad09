import AlbumCatalog.Proofs.CalendarOrder
import Mathlib.Order.Cover

/-!
# Days one after another

Dates are in the order of their years, months and days. `Date.next?` gives the first later date, over
the ends of months and years, and nothing for the last date only. An instant lies before the midnight
of a day exactly when its own day is an earlier one, in a leap second too, so the midnights cut the
line of instants into days.
-/

namespace AlbumCatalog

lemma one_le_daysInMonth (year : Int) (month : Nat) : 1 ≤ daysInMonth year month := by
  unfold daysInMonth
  split
  · split <;> omega
  all_goals omega

namespace Date

instance : LinearOrder Date :=
  LinearOrder.lift' rank fun _ _ => rank_injective

lemma lt_iff {d d' : Date} : d < d' ↔ d.year < d'.year ∨
    d.year = d'.year ∧ (d.month < d'.month ∨ d.month = d'.month ∧ d.day < d'.day) := by
  obtain ⟨-, -, hmonth, hmonth', hday, -⟩ := d.valid
  obtain ⟨-, -, hmonth₂, hmonth₂', hday₂, -⟩ := d'.valid
  have hle := d.day_le
  have hle' := d'.day_le
  change d.rank < d'.rank ↔ _
  simp only [rank]
  omega

lemma of?_eq_some_iff {year : Int} {month day : Nat} {d : Date} :
    of? year month day = some d ↔ d.year = year ∧ d.month = month ∧ d.day = day := by
  unfold of?
  constructor
  · intro h
    split at h
    · cases h
      exact ⟨rfl, rfl, rfl⟩
    · cases h
  · rintro ⟨rfl, rfl, rfl⟩
    exact dif_pos d.valid

lemma of?_eq_none_iff {year : Int} {month day : Nat} :
    of? year month day = none ↔ ¬ IsDate year month day := by
  unfold of?
  split <;> simp [*]

/-! ### The day after -/

variable {d d' : Date}

/-- The day after is in the same month, or it is the first day of the month after. -/
lemma next?_eq_some_cases (h : d.next? = some d') :
    d'.year = d.year ∧ d'.month = d.month ∧ d'.day = d.day + 1 ∨
      d.day = daysInMonth d.year d.month ∧ d'.day = 1 ∧
        (d'.year = d.year ∧ d'.month = d.month + 1 ∨
          d.month = 12 ∧ d'.year = d.year + 1 ∧ d'.month = 1) := by
  obtain ⟨-, -, -, hmonth, -, hlast⟩ := d.valid
  unfold next? at h
  split at h
  · exact .inl (of?_eq_some_iff.mp h)
  · have hend : d.day = daysInMonth d.year d.month := by omega
    split at h
    · obtain ⟨hy, hm, hd⟩ := of?_eq_some_iff.mp h
      exact .inr ⟨hend, hd, .inl ⟨hy, hm⟩⟩
    · obtain ⟨hy, hm, hd⟩ := of?_eq_some_iff.mp h
      exact .inr ⟨hend, hd, .inr ⟨by omega, hy, hm⟩⟩

/-- No date lies between a day and the day after. -/
lemma covBy_of_next? (h : d.next? = some d') : d ⋖ d' := by
  have hcases := next?_eq_some_cases h
  obtain ⟨-, -, -, hmonth, -, -⟩ := d.valid
  refine ⟨lt_iff.mpr (by omega), fun e he he' => ?_⟩
  obtain ⟨-, -, hfirst, htwelve, hone, hlast⟩ := e.valid
  -- behind the last day of a month there is no other date of that month
  have hinside : e.year = d.year → e.month = d.month → e.day ≤ daysInMonth d.year d.month := by
    intro hyear hmonth
    rwa [hyear, hmonth] at hlast
  rw [lt_iff] at he he'
  omega

/-- A day without a day after is the last one of its month, its year and the calendar. -/
lemma last_of_next?_eq_none (h : d.next? = none) :
    d.year = lastYear ∧ d.month = 12 ∧ d.day = daysInMonth d.year d.month := by
  obtain ⟨hyear, hyear', hmonth, hmonth', hday, hlast⟩ := d.valid
  unfold next? at h
  split at h
  · have hexists : IsDate d.year d.month (d.day + 1) :=
      ⟨hyear, hyear', hmonth, hmonth', by omega, by omega⟩
    exact absurd hexists (of?_eq_none_iff.mp h)
  · split at h
    · have hexists : IsDate d.year (d.month + 1) 1 :=
        ⟨hyear, hyear', by omega, by omega, Nat.le_refl 1, one_le_daysInMonth _ _⟩
      exact absurd hexists (of?_eq_none_iff.mp h)
    · have hend : ¬ d.year + 1 ≤ lastYear := fun hle => of?_eq_none_iff.mp h
        ⟨by omega, hle, Nat.le_refl 1, by decide, Nat.le_refl 1, one_le_daysInMonth _ _⟩
      omega

/-- Only the last day of the calendar has no day after. -/
lemma next?_eq_none_iff : d.next? = none ↔ ∀ e, e ≤ d := by
  constructor
  · intro h e
    obtain ⟨hyear, hmonth, hday⟩ := last_of_next?_eq_none h
    obtain ⟨-, heyear, -, hemonth, -, helast⟩ := e.valid
    rw [← not_lt, lt_iff]
    rintro (hlt | ⟨hy, hlt | ⟨hm, hlt⟩⟩)
    · omega
    · omega
    · rw [← hy, ← hm] at helast
      omega
  · intro h
    cases hnext : d.next? with
    | none => rfl
    | some d' => exact absurd (covBy_of_next? hnext).lt (h d').not_gt

/-- The day after is the first of all later days. -/
lemma next?_eq_some_iff : d.next? = some d' ↔ d ⋖ d' := by
  constructor
  · exact covBy_of_next?
  · intro h
    cases hnext : d.next? with
    | none => exact absurd h.lt (next?_eq_none_iff.mp hnext d').not_gt
    | some e => rw [(covBy_of_next? hnext).unique_right h]

end Date

/-! ### Midnights -/

namespace Instant

variable {t : Instant} {d d' : Date}

lemma lt_midnight_iff : t < midnight d ↔ t.date < d := by
  obtain ⟨hsecond, hnano, -⟩ := t.valid
  change t.rank < (midnight d).rank ↔ t.date.rank < d.rank
  simp only [rank, midnight]
  simp only [secondsInDay, nanosInSecond] at *
  omega

lemma midnight_le_iff : midnight d ≤ t ↔ d ≤ t.date := by
  rw [← not_lt, lt_midnight_iff, not_lt]

lemma midnight_le_midnight (h : d ≤ d') : midnight d ≤ midnight d' :=
  midnight_le_iff.mpr h

/-- A day begins at its midnight and ends before the next one. -/
lemma date_eq_iff (h : d.next? = some d') :
    t.date = d ↔ ¬ t < midnight d ∧ t < midnight d' := by
  rw [lt_midnight_iff, lt_midnight_iff, (Date.next?_eq_some_iff.mp h).lt_iff_le_left, not_lt,
    le_antisymm_iff, and_comm]

/-- The last day has no end. -/
lemma date_eq_iff_of_last (h : d.next? = none) : t.date = d ↔ ¬ t < midnight d := by
  rw [lt_midnight_iff, not_lt]
  exact ⟨fun he => he.ge, fun hle => le_antisymm (Date.next?_eq_none_iff.mp h t.date) hle⟩

end Instant

end AlbumCatalog
