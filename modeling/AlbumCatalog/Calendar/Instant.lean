import AlbumCatalog.Calendar.Date

/-!
# Instants

An instant is a second of a day in UTC and nanoseconds within it. A leap second shares the number of
the second before it and counts its nanoseconds from 10^9 on; it ends a minute.
-/

namespace AlbumCatalog

def secondsInDay : Nat := 86400

def nanosInSecond : Nat := 1000000000

/-- Whether a day has that second and nanosecond. -/
def IsTime (second nano : Nat) : Prop :=
  second < secondsInDay ∧ nano < 2 * nanosInSecond ∧ (nanosInSecond ≤ nano → second % 60 = 59)

instance (second nano : Nat) : Decidable (IsTime second nano) :=
  inferInstanceAs (Decidable (_ ∧ _))

structure Instant where
  date : Date
  second : Nat
  nano : Nat
  valid : IsTime second nano
  deriving DecidableEq

namespace Instant

/-- The first instant of a day. -/
def midnight (d : Date) : Instant :=
  ⟨d, 0, 0, by decide⟩

/-- The place of the instant in the order of all instants. -/
def rank (t : Instant) : Int :=
  (t.date.rank * secondsInDay + t.second) * (2 * nanosInSecond) + t.nano

instance : LT Instant := ⟨fun s t => s.rank < t.rank⟩

instance : LE Instant := ⟨fun s t => s.rank ≤ t.rank⟩

instance (s t : Instant) : Decidable (s < t) :=
  inferInstanceAs (Decidable (s.rank < t.rank))

instance (s t : Instant) : Decidable (s ≤ t) :=
  inferInstanceAs (Decidable (s.rank ≤ t.rank))

end Instant

end AlbumCatalog
