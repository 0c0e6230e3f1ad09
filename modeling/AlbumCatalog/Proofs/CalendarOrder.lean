import AlbumCatalog.Calendar.Instant
import Mathlib.Order.Defs.LinearOrder
import Mathlib.Tactic.Lemma

/-!
# The order of dates and instants

No two dates have the same rank, and no two instants, so the instants form a line.
-/

namespace AlbumCatalog

lemma daysInMonth_le (year : Int) (month : Nat) : daysInMonth year month ≤ 31 := by
  unfold daysInMonth
  split
  · split <;> omega
  all_goals omega

lemma Date.day_le (d : Date) : d.day ≤ 31 := by
  obtain ⟨-, -, -, -, -, hday⟩ := d.valid
  exact Nat.le_trans hday (daysInMonth_le d.year d.month)

lemma Date.rank_injective {d d' : Date} (h : d.rank = d'.rank) : d = d' := by
  obtain ⟨-, -, hmonth, hmonth', -, -⟩ := d.valid
  obtain ⟨-, -, hmonth₂, hmonth₂', -, -⟩ := d'.valid
  have hday := d.day_le
  have hday' := d'.day_le
  simp only [rank] at h
  have hy : d.year = d'.year := by omega
  have hm : d.month = d'.month := by omega
  have hd : d.day = d'.day := by omega
  cases d
  cases d'
  congr

lemma Instant.rank_injective {t t' : Instant} (h : t.rank = t'.rank) : t = t' := by
  obtain ⟨hsecond, hnano, -⟩ := t.valid
  obtain ⟨hsecond', hnano', -⟩ := t'.valid
  simp only [rank] at h
  simp only [secondsInDay, nanosInSecond] at *
  have hrank : t.date.rank = t'.date.rank := by omega
  have hs : t.second = t'.second := by omega
  have hn : t.nano = t'.nano := by omega
  have hdate := Date.rank_injective hrank
  cases t
  cases t'
  congr

instance : LinearOrder Instant where
  le_refl t := Int.le_refl t.rank
  le_trans _ _ _ := Int.le_trans
  lt_iff_le_not_ge _ _ := Int.lt_iff_le_and_not_ge
  le_antisymm _ _ h h' := Instant.rank_injective (Int.le_antisymm h h')
  le_total t t' := Int.le_total t.rank t'.rank
  toDecidableLE := inferInstance

end AlbumCatalog
