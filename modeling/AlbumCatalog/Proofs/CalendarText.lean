import AlbumCatalog.Calendar.Timestamp
import AlbumCatalog.Proofs.CalendarOrder
import AlbumCatalog.Proofs.Digits

/-!
# Days and instants read back from their text

Each part of a day or a timestamp is read back by its own reader from what its writer wrote, if the
text behind it does not go on with the same part. So days and instants are read back exactly: years
of any width and sign, fractions of three, six or nine digits, and leap seconds as the second 60.
-/

namespace AlbumCatalog

/-! ### Years and fields -/

lemma skipWhite_mark {c : Char} (h : isWhite c = false) (rest : List Char) :
    skipWhite (c :: rest) = c :: rest :=
  skipWhite_of_head (by simpa using h)

lemma readYear_signed {sign : Char} {m : Int} (hsign : sign = '-' ∧ m = -1 ∨ sign = '+' ∧ m = 1)
    (n : Nat) {rest : List Char} (hrest : ∀ c ∈ rest.head?, c.isDigit = false) :
    readYear (sign :: padded 4 n ++ rest) = some (m * n, rest) := by
  have hread : readNumber (padded 4 n ++ rest).length (padded 4 n ++ rest) = some (n, rest) := by
    rw [readNumber_append (isDigit_of_mem_padded 4 n) (padded_ne_nil 4 n) (by simp)
      (Or.inr hrest), decimalValue_padded]
  have hwhite : skipWhite (sign :: (padded 4 n ++ rest)) = sign :: (padded 4 n ++ rest) := by
    apply skipWhite_mark
    rcases hsign with ⟨rfl, -⟩ | ⟨rfl, -⟩ <;> rfl
  rw [readYear, List.cons_append, hwhite]
  rcases hsign with ⟨rfl, rfl⟩ | ⟨rfl, rfl⟩
  · simp only [hread, Option.map_some]
    rw [Int.neg_one_mul]
  · simp only [hread, Option.map_some]
    rw [Int.one_mul]

lemma readYear_padded {n : Nat} (h : n < 10 ^ 4) (rest : List Char) :
    readYear (padded 4 n ++ rest) = some ((n : Int), rest) := by
  rw [readYear, skipWhite_padded]
  have hread := readNumber_padded h (by omega) rest
  cases hd : padded 4 n with
  | nil => exact absurd hd (padded_ne_nil 4 n)
  | cons c ds =>
    have hc : c.isDigit := isDigit_of_mem_padded 4 n c (by rw [hd]; exact List.mem_cons_self)
    rw [hd] at hread
    rw [List.cons_append] at hread ⊢
    split
    · rename_i heq
      cases heq
      cases hc
    · rename_i heq
      cases heq
      cases hc
    · rw [hread]
      rfl

lemma readYear_yearText (year : Int) {rest : List Char}
    (hrest : ∀ c ∈ rest.head?, c.isDigit = false) :
    readYear (yearText year ++ rest) = some (year, rest) := by
  rw [yearText]
  split
  · rw [readYear_signed (Or.inl ⟨rfl, rfl⟩) _ hrest]
    congr 2
    omega
  · split
    · rw [readYear_padded (by omega)]
      congr 2
      omega
    · rw [readYear_signed (Or.inr ⟨rfl, rfl⟩) _ hrest]
      congr 2
      omega

lemma readField_padded {n : Nat} (h : n < 100) (rest : List Char) :
    readField (padded 2 n ++ rest) = some (n, rest) := by
  rw [readField, skipWhite_padded]
  exact readNumber_padded h (by omega) rest

/-! ### Fractions -/

lemma readFraction_padded {width n : Nat} (h : n < 10 ^ width) (hpos : 0 < width)
    (hwidth : width ≤ 9) {rest : List Char} (hrest : ∀ c ∈ rest.head?, c.isDigit = false) :
    readFraction ('.' :: padded width n ++ rest) = some (n * Nat.pow 10 (9 - width), rest) := by
  have hlen := length_padded h hpos
  have hread : readNumber 9 (padded width n ++ rest) = some (n, rest) := by
    rw [readNumber_append (isDigit_of_mem_padded width n) (padded_ne_nil width n)
      (hlen.trans_le hwidth) (Or.inr hrest), decimalValue_padded]
  have hdrop : rest.dropWhile Char.isDigit = rest :=
    (takeWhile_isDigit (List.forall_mem_nil _) hrest).2
  simp only [readFraction, List.cons_append, hread, Option.bind_eq_bind, Option.bind_some, hdrop,
    List.length_append, hlen, Nat.add_sub_cancel]

lemma readFraction_fractionText {nano : Nat} (h : nano < nanosInSecond) {rest : List Char}
    (hrest : ∀ c ∈ rest.head?, c.isDigit = false ∧ c ≠ '.') :
    readFraction (fractionText nano ++ rest) = some (nano, rest) := by
  have hdigit : ∀ c ∈ rest.head?, c.isDigit = false := fun c hc => (hrest c hc).1
  rw [nanosInSecond] at h
  rw [fractionText]
  split
  · subst nano
    cases rest with
    | nil => rfl
    | cons c rest =>
      have hdot : c ≠ '.' := (hrest c rfl).2
      simp [readFraction, hdot]
  · split
    · rw [readFraction_padded (by omega) (by omega) (by omega) hdigit]
      congr 2
      change nano / 1000000 * 1000000 = nano
      omega
    · split
      · rw [readFraction_padded (by omega) (by omega) (by omega) hdigit]
        congr 2
        change nano / 1000 * 1000 = nano
        omega
      · rw [readFraction_padded (by omega) (by omega) (by omega) hdigit]
        congr 2
        exact Nat.mul_one nano

/-! ### Days -/

lemma readMark_self (mark : Char) (rest : List Char) : readMark mark (mark :: rest) = some rest :=
  if_pos rfl

namespace Date

lemma of?_self (d : Date) : of? d.year d.month d.day = some d :=
  dif_pos d.valid

lemma ofDayText?_dayText (d : Date) : ofDayText? d.dayText = some d := by
  obtain ⟨-, -, -, hmonth, -, -⟩ := d.valid
  have hday := d.day_le
  have hyear : readYear (yearText d.year) = some (d.year, []) := by
    have hread : readYear (yearText d.year ++ []) = some (d.year, []) :=
      readYear_yearText d.year (by simp)
    rwa [List.append_nil] at hread
  rw [dayText, ofDayText?, List.append_assoc, List.cons_append]
  refine Option.bind_eq_some_iff.mpr ⟨_, readField_padded (by omega) _, ?_⟩
  refine Option.bind_eq_some_iff.mpr ⟨_, readMark_self _ _, ?_⟩
  refine Option.bind_eq_some_iff.mpr ⟨_, readField_padded (by omega) _, ?_⟩
  refine Option.bind_eq_some_iff.mpr ⟨_, readMark_self _ _, ?_⟩
  refine Option.bind_eq_some_iff.mpr ⟨_, hyear, ?_⟩
  exact d.of?_self

/-- A day is written with digits, slashes and the sign of its year. -/
lemma mem_dayText {d : Date} {c : Char} (h : c ∈ d.dayText) :
    c.isDigit ∨ c = '/' ∨ c = '-' ∨ c = '+' := by
  have hyear : c ∈ yearText d.year → c.isDigit ∨ c = '/' ∨ c = '-' ∨ c = '+' := by
    have hdigit := isDigit_of_mem_padded 4 d.year.natAbs c
    rw [yearText]
    split
    · simp only [List.mem_cons]
      tauto
    · split
      · tauto
      · simp only [List.mem_cons]
        tauto
  have hday := isDigit_of_mem_padded 2 d.day c
  have hmonth := isDigit_of_mem_padded 2 d.month c
  simp only [dayText, List.mem_append, List.mem_cons] at h
  tauto

end Date

/-! ### Instants -/

lemma Instant.minusSeconds?_zero (t : Instant) :
    minusSeconds? t.date t.second t.nano 0 = some t := by
  have hday : t.second < secondsInDay := t.valid.1
  have hsecond : (((t.second : Int) - 0) % secondsInDay).toNat = t.second := by
    rw [secondsInDay] at hday ⊢
    omega
  have hnonneg : ¬ ((t.second : Int) - 0 < 0) := by omega
  have hlt : (t.second : Int) - 0 < secondsInDay := by omega
  simp only [minusSeconds?, if_neg hnonneg, if_pos hlt, Option.bind_eq_bind, Option.bind_some,
    hsecond]
  exact dif_pos t.valid

lemma readMark_skipWhite {mark : Char} (h : isWhite mark = false) (rest : List Char) :
    readMark mark (skipWhite (mark :: rest)) = some rest := by
  rw [skipWhite_mark h, readMark_self]

/-- The second of the minute as it is written, and the nanoseconds behind it. -/
def Instant.written (t : Instant) : Nat × Nat :=
  if nanosInSecond ≤ t.nano then (t.second % 60 + 1, t.nano - nanosInSecond)
  else (t.second % 60, t.nano)

lemma Instant.written_lt (t : Instant) : t.written.1 < 100 ∧ t.written.2 < nanosInSecond := by
  have hnano : t.nano < 2 * nanosInSecond := t.valid.2.1
  rw [written]
  split <;> simp only <;> omega

lemma Instant.text_eq (t : Instant) (rest : List Char) :
    t.text ++ rest = yearText t.date.year ++ '-' :: (padded 2 t.date.month ++ '-' ::
      (padded 2 t.date.day ++ 'T' :: (padded 2 (t.second / 3600) ++ ':' ::
        (padded 2 (t.second / 60 % 60) ++ ':' :: (padded 2 t.written.1 ++
          (fractionText t.written.2 ++ rest)))))) := by
  simp only [text, written, List.append_assoc, List.cons_append]
  split <;> rfl

/-- The parts that were written lead back to the instant. Only a leap second has the second 60. -/
lemma Instant.ofParts (t : Instant) :
    (if t.written.1 = 60 then
      minusSeconds? t.date ((t.second / 3600 * 60 + t.second / 60 % 60) * 60 + 59)
        (t.written.2 + nanosInSecond) 0
    else
      minusSeconds? t.date ((t.second / 3600 * 60 + t.second / 60 % 60) * 60 + t.written.1)
        t.written.2 0) = some t := by
  have hleap := t.valid.2.2
  by_cases h : nanosInSecond ≤ t.nano
  · have hwritten : t.written = (60, t.nano - nanosInSecond) := by
      rw [written, if_pos h, hleap h]
    have hsecond : (t.second / 3600 * 60 + t.second / 60 % 60) * 60 + 59 = t.second := by
      have := hleap h
      omega
    rw [hwritten, if_pos rfl, hsecond, Nat.sub_add_cancel h, minusSeconds?_zero]
  · have hwritten : t.written = (t.second % 60, t.nano) := by
      rw [written, if_neg h]
    have hne : t.second % 60 ≠ 60 := by omega
    have hsecond :
        (t.second / 3600 * 60 + t.second / 60 % 60) * 60 + t.second % 60 = t.second := by omega
    rw [hwritten, if_neg hne, hsecond, minusSeconds?_zero]

/-- An instant is read back from its text under every mark of the offset zero. -/
lemma Instant.ofText?_text (t : Instant) {mark : List Char} (hmark : readOffset mark = some (0, []))
    (hhead : ∀ c ∈ mark.head?, c.isDigit = false ∧ c ≠ '.' ∧ isWhite c = false) :
    Instant.ofText? (t.text ++ mark) = some t := by
  have hsecond : t.second < 86400 := t.valid.1
  obtain ⟨-, -, -, hmonth, -, -⟩ := t.date.valid
  have hday := t.date.day_le
  obtain ⟨hwritten, hnano⟩ := t.written_lt
  have hfraction := readFraction_fractionText hnano
    (fun c hc => ⟨(hhead c hc).1, (hhead c hc).2.1⟩ : ∀ c ∈ mark.head?, _)
  have hmarkWhite : skipWhite mark = mark := skipWhite_of_head fun c hc => (hhead c hc).2.2
  have hbounds : t.second / 3600 < 24 ∧ t.second / 60 % 60 < 60 ∧ t.written.1 ≤ 60 ∧
      (0 : Int).natAbs < secondsInDay ∧ (skipWhite []).isEmpty := by
    refine ⟨by omega, by omega, ?_, by decide, rfl⟩
    rw [written]
    split <;> simp only <;> omega
  rw [t.text_eq, ofText?]
  refine Option.bind_eq_some_iff.mpr ⟨_, readYear_yearText t.date.year (by simp), ?_⟩
  refine Option.bind_eq_some_iff.mpr ⟨_, readMark_skipWhite (by decide) _, ?_⟩
  refine Option.bind_eq_some_iff.mpr ⟨_, readField_padded (by omega) _, ?_⟩
  refine Option.bind_eq_some_iff.mpr ⟨_, readMark_skipWhite (by decide) _, ?_⟩
  refine Option.bind_eq_some_iff.mpr ⟨_, readField_padded (by omega) _, ?_⟩
  refine Option.bind_eq_some_iff.mpr ⟨_, rfl, ?_⟩
  refine Option.bind_eq_some_iff.mpr ⟨_, readField_padded (by omega) _, ?_⟩
  refine Option.bind_eq_some_iff.mpr ⟨_, readMark_skipWhite (by decide) _, ?_⟩
  refine Option.bind_eq_some_iff.mpr ⟨_, readField_padded (by omega) _, ?_⟩
  refine Option.bind_eq_some_iff.mpr ⟨_, readMark_skipWhite (by decide) _, ?_⟩
  refine Option.bind_eq_some_iff.mpr ⟨_, readField_padded hwritten _, ?_⟩
  refine Option.bind_eq_some_iff.mpr ⟨_, hfraction, ?_⟩
  refine Option.bind_eq_some_iff.mpr ⟨_, hmarkWhite.symm ▸ hmark, ?_⟩
  refine Option.bind_eq_some_iff.mpr ⟨_, t.date.of?_self, ?_⟩
  exact (if_pos hbounds).trans t.ofParts

lemma Instant.ofText?_zuluText (t : Instant) : Instant.ofText? t.zuluText = some t :=
  t.ofText?_text rfl fun c hc => by cases hc; decide

lemma Instant.ofText?_offsetText (t : Instant) : Instant.ofText? t.offsetText = some t :=
  t.ofText?_text (by decide) fun c hc => by cases hc; decide

end AlbumCatalog
