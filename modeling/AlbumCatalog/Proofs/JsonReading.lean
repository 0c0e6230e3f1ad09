import AlbumCatalog.Proofs.JsonGrammar

/-!
# Readers take what is laid out

`Takes r cs a` says that a reader takes a text for a value, behind any white space and before any
text that does not go on with a number. Strings are taken in every spelling, and integers as they
are written.
-/

namespace AlbumCatalog

/-- The text behind a value, which is not taken for a part of it. -/
def Delimits (rest : List Char) : Prop :=
  ∀ c ∈ rest.head?, c.isDigit = false ∧ c ≠ '.' ∧ c ≠ 'e' ∧ c ≠ 'E'

def Takes {α : Type} (r : JsonReader α) (cs : List Char) (a : α) : Prop :=
  ∀ b rest, IsJsonBlanks b → Delimits rest → r (b ++ (cs ++ rest)) = .ok (a, rest)

/-- The reader takes the value in every layout that the bound on its items leaves room for. -/
def Decodes {α : Type} (bound : Nat) (r : JsonReader α) (v : Json) (a : α) : Prop :=
  ∀ cs, JsonText v cs → cs.length ≤ bound → Takes r cs a

/-- The reader takes the text for the value, or fails for the data if the text is faulty. -/
def Gives {α : Type} (r : JsonReader α) (cs : List Char) (a : α) (faulty : Bool) : Prop :=
  ∀ b rest, IsJsonBlanks b → Delimits rest →
    r (b ++ (cs ++ rest)) = if faulty then .error .data else .ok (a, rest)

lemma gives_false {α : Type} {r : JsonReader α} {cs : List Char} {a : α} :
    Gives r cs a false ↔ Takes r cs a :=
  Iff.rfl

lemma delimits_cons {c : Char} (h : c.isDigit = false ∧ c ≠ '.' ∧ c ≠ 'e' ∧ c ≠ 'E')
    (rest : List Char) : Delimits (c :: rest) := by
  intro d hd
  cases hd
  exact h

lemma delimits_blanks {b rest : List Char} (hb : IsJsonBlanks b) (hrest : Delimits rest) :
    Delimits (b ++ rest) := by
  cases b with
  | nil => exact hrest
  | cons c b =>
    have hc : isJsonBlank c := hb c List.mem_cons_self
    simp only [isJsonBlank, Bool.or_eq_true, beq_iff_eq] at hc
    apply delimits_cons
    rcases hc with ((rfl | rfl) | rfl) | rfl <;> decide

/-- Behind a piece stands a comma or what closes the list or object, maybe after blanks. -/
lemma FurtherPieces.delimits {ps : List (List Char)} {ds : List Char} (h : FurtherPieces ps ds)
    (close : Char) (hclose : close.isDigit = false ∧ close ≠ '.' ∧ close ≠ 'e' ∧ close ≠ 'E')
    (rest : List Char) : Delimits (ds ++ close :: rest) := by
  cases h with
  | nil hb => exact delimits_blanks hb (delimits_cons hclose rest)
  | cons hb hb' hps =>
    rw [List.append_assoc]
    exact delimits_blanks hb (delimits_cons (by decide) _)

/-! ### Strings -/

lemma skipJsonBlanks_append {b : List Char} (hb : IsJsonBlanks b) (cs : List Char) :
    skipJsonBlanks (b ++ cs) = skipJsonBlanks cs :=
  List.dropWhile_append_of_pos hb

lemma skipJsonBlanks_cons {c : Char} (h : isJsonBlank c = false) (cs : List Char) :
    skipJsonBlanks (c :: cs) = c :: cs :=
  List.dropWhile_cons_of_neg (by simp [h])

lemma readColon_append {gap : List Char} (hgap : IsJsonBlanks gap) (rest : List Char) :
    readColon (gap ++ ':' :: rest) = .ok rest := by
  simp only [readColon, skipJsonBlanks_append hgap,
    skipJsonBlanks_cons (show isJsonBlank ':' = false from rfl)]

lemma length_le_byteLength (cs : List Char) : cs.length ≤ byteLength cs := by
  induction cs with
  | nil => exact Nat.zero_le _
  | cons c cs ih =>
    have := c.utf8Size_pos
    rw [byteLength_cons, List.length_cons]
    omega

lemma readHex_append {ds : List Char} (hds : IsHex ds) (rest : List Char) :
    readHex (ds ++ rest) = .ok (hexNumber ds) := by
  have htake : (ds ++ rest).take 4 = ds := List.take_left' hds.1
  have hbytes := length_le_byteLength ds
  rw [hds.1] at hbytes
  simp only [readHex, htake, if_neg (Nat.not_lt.mpr hbytes), List.all_eq_true.mpr hds.2, if_true]

lemma readEscape_code {c : Char} {ds : List Char} (hds : IsHex ds) (hc : hexNumber ds = c.toNat)
    (rest : List Char) : readEscape ('u' :: (ds ++ rest)) = .ok (c, 5) := by
  have hvalid : c.toNat < 0xD800 ∨ 0xDFFF < c.toNat := by
    rcases c.valid with h | h
    · exact .inl h
    · exact .inr h.1
  have hlow : isLowSurrogate c.toNat = false := by
    simp only [isLowSurrogate, Bool.and_eq_false_iff, decide_eq_false_iff_not]
    omega
  have hhigh : isHighSurrogate c.toNat = false := by
    simp only [isHighSurrogate, Bool.and_eq_false_iff, decide_eq_false_iff_not]
    omega
  simp only [readEscape, readHex_append hds, hc, bind, Except.bind, hlow, hhigh, Char.ofNat_toNat,
    Bool.false_eq_true, if_false]

lemma readEscape_pair {c : Char} {high low : List Char} (hhigh : IsHex high) (hlow : IsHex low)
    (hc : 0x10000 ≤ c.toNat) (hhighHalf : hexNumber high = 0xD800 + (c.toNat - 0x10000) / 0x400)
    (hlowHalf : hexNumber low = 0xDC00 + (c.toNat - 0x10000) % 0x400) (rest : List Char) :
    readEscape ('u' :: (high ++ '\\' :: 'u' :: (low ++ rest))) = .ok (c, 11) := by
  have hmax : c.toNat < 0x110000 := by
    rcases c.valid with h | h
    · exact Nat.lt_trans h (by decide)
    · exact h.2
  have hdrop : (high ++ '\\' :: 'u' :: (low ++ rest)).drop 4 = '\\' :: 'u' :: (low ++ rest) :=
    List.drop_left' hhigh.1
  have hnotLow : isLowSurrogate (hexNumber high) = false := by
    simp only [isLowSurrogate, Bool.and_eq_false_iff, decide_eq_false_iff_not]
    omega
  have hisHigh : isHighSurrogate (hexNumber high) = true := by
    simp only [isHighSurrogate, Bool.and_eq_true, decide_eq_true_eq]
    omega
  have hisLow : isLowSurrogate (hexNumber low) = true := by
    simp only [isLowSurrogate, Bool.and_eq_true, decide_eq_true_eq]
    omega
  have hsum : 0x10000 + (hexNumber high - 0xD800) * 0x400 + (hexNumber low - 0xDC00) = c.toNat := by
    omega
  simp only [readEscape, readHex_append hhigh, bind, Except.bind, hnotLow, hisHigh, hdrop,
    readLowSurrogate, readHex_append hlow, hisLow, hsum, Char.ofNat_toNat, Bool.false_eq_true,
    if_false, if_true]

lemma readStringRest_escape {cs : List Char} {d : Char} {n : Nat} (h : readEscape cs = .ok (d, n))
    (before : List Char) :
    readStringRest before ('\\' :: cs) = readStringRest (d :: before) (cs.drop n) := by
  rw [readStringRest]
  simp [h]

/-- A character is read back from every way to write it. -/
lemma readStringRest_charText {c : Char} {ps : List Char} (h : CharText c ps)
    (before rest : List Char) :
    readStringRest before (ps ++ rest) = readStringRest (c :: before) rest := by
  cases h with
  | plain hc =>
    rw [List.singleton_append, readStringRest, if_neg hc.1, if_neg hc.2.1, if_neg hc.2.2]
  | @mark m c hm =>
    have hread : readEscape (m :: rest) = .ok (c, 1) := by
      simp only [List.mem_cons, Prod.mk.injEq, List.not_mem_nil, or_false] at hm
      rcases hm with h | h | h | h | h | h | h | h <;> obtain ⟨rfl, rfl⟩ := h <;> rfl
    exact readStringRest_escape hread before
  | @code c ds hds hc =>
    have hread := readStringRest_escape (readEscape_code hds hc rest) before
    rwa [List.drop_succ_cons, List.drop_left' hds.1] at hread
  | @pair c high low hhigh hlow hc hhighHalf hlowHalf =>
    have hread := readStringRest_escape
      (readEscape_pair hhigh hlow hc hhighHalf hlowHalf rest) before
    have hdrop : ('u' :: (high ++ '\\' :: 'u' :: (low ++ rest))).drop 11 = rest := by
      have hsplit : 'u' :: (high ++ '\\' :: 'u' :: (low ++ rest)) =
          ('u' :: (high ++ '\\' :: 'u' :: low)) ++ rest := by simp
      rw [hsplit]
      exact List.drop_left' (by simp [hhigh.1, hlow.1])
    rw [hdrop] at hread
    simpa using hread

lemma readStringRest_of_quotes {s cs : List Char} (h : QuotesRest s cs) (before rest : List Char) :
    readStringRest before (cs ++ rest) = .ok (String.ofList (before.reverse ++ s), rest) := by
  induction h generalizing before with
  | close => rw [List.singleton_append, readStringRest, if_pos rfl, List.append_nil]
  | char hc _ ih =>
    rw [List.append_assoc, readStringRest_charText hc, ih, List.reverse_cons, List.append_assoc,
      List.singleton_append]

/-- A string is read from every text that spells it, whatever stands behind. -/
lemma Quotes.read {s : String} {k : List Char} (h : Quotes s k) :
    ∃ ks, k = '"' :: ks ∧ ∀ rest, readStringRest [] (ks ++ rest) = .ok (s, rest) := by
  obtain ⟨hcs⟩ := h
  refine ⟨_, rfl, fun rest => ?_⟩
  rw [readStringRest_of_quotes hcs, List.reverse_nil, List.nil_append, String.ofList_toList]

lemma decodes_string (bound : Nat) (s : String) : Decodes bound readJsonString (.string s) s := by
  intro cs h _ b rest hb _
  cases h
  obtain ⟨cs, hcs, hread⟩ := (quotes_jsonString s).read
  rw [readJsonString, skipJsonBlanks_append hb, hcs, List.cons_append, skipJsonBlanks_cons rfl]
  exact hread rest

lemma decodes_parsed {α : Type} {parse : String → Option α} {s : String} {a : α} (bound : Nat)
    (h : parse s = some a) : Decodes bound (readParsed parse) (.string s) a := by
  intro cs hcs hlen b rest hb hrest
  rw [readParsed, decodes_string bound s cs hcs hlen b rest hb hrest]
  simp only [bind, Except.bind, h]

lemma decodes_named {α : Type} {parse : String → Option α} {s : String} {a : α} (bound : Nat)
    (h : parse s = some a) : Decodes bound (readNamed parse) (.string s) a := by
  intro cs hcs hlen b rest hb hrest
  have hparsed := decodes_parsed bound h cs hcs hlen [] rest isJsonBlanks_nil hrest
  cases hcs
  obtain ⟨cs, hcs, -⟩ := (quotes_jsonString s).read
  rw [List.nil_append, hcs] at hparsed
  rw [readNamed, skipJsonBlanks_append hb, hcs, List.cons_append, skipJsonBlanks_cons rfl]
  exact hparsed

/-! ### Integers -/

lemma le_foldl_digits (cs : List Char) (n : Nat) :
    n ≤ cs.foldl (fun n c => 10 * n + digitValue c) n := by
  induction cs generalizing n with
  | nil => exact le_rfl
  | cons c cs ih => exact le_trans (by omega) (ih (10 * n + digitValue c))

/-- Digits whose number 64 bits can hold are all taken into the significand. -/
lemma extendSignificand_eq {cs : List Char} {n : Nat}
    (h : cs.foldl (fun n c => 10 * n + digitValue c) n ≤ largestWord) :
    extendSignificand n cs = (cs.foldl (fun n c => 10 * n + digitValue c) n, 0) := by
  induction cs generalizing n with
  | nil => rfl
  | cons c cs ih =>
    have hle := le_foldl_digits cs (10 * n + digitValue c)
    rw [extendSignificand, if_neg (Nat.not_lt.mpr (hle.trans h))]
    exact ih h

lemma readNumberTail_of_delimits {negative : Bool} {n : Nat} {rest : List Char}
    (hrest : Delimits rest) (hpos : negative → n ≠ 0) (hle : n ≤ 0x8000000000000000) :
    readNumberTail negative n 0 rest =
      .ok (.integer (if negative then -n else n), rest) := by
  have hinteger : (if negative then
      if n = 0 ∨ 0x8000000000000000 < n then Except.ok (JsonNumber.real, rest)
      else .ok (.integer (-n), rest)
      else .ok (.integer n, rest) : Except JsonFault (JsonNumber × List Char)) =
        .ok (.integer (if negative then -n else n), rest) := by
    cases negative with
    | false => rfl
    | true =>
      have hreal : ¬ (n = 0 ∨ 0x8000000000000000 < n) := by
        have := hpos rfl
        omega
      simp only [if_neg hreal, if_true]
  unfold readNumberTail
  split
  · exact absurd rfl (hrest '.' rfl).2.1
  · exact absurd rfl (hrest 'e' rfl).2.2.1
  · exact absurd rfl (hrest 'E' rfl).2.2.2
  · exact hinteger

lemma readMagnitude_decimal (negative : Bool) {n : Nat} {rest : List Char} (hrest : Delimits rest)
    (hpos : negative → n ≠ 0) (hle : n ≤ 0x8000000000000000) :
    readMagnitude negative (decimal n ++ rest) =
      .ok (.integer (if negative then -n else n), rest) := by
  have htail := readNumberTail_of_delimits hrest hpos hle
  by_cases hn : n = 0
  · subst hn
    rw [decimal_of_lt (by omega)]
    cases rest with
    | nil => exact htail
    | cons c rest =>
      have hc : c.isDigit = false := (hrest c rfl).1
      change (if c.isDigit then _ else _) = _
      rw [hc]
      exact htail
  · obtain ⟨c, ds, hcs⟩ := List.exists_cons_of_ne_nil (decimal_ne_nil n)
    have hdigits : ∀ d ∈ c :: ds, d.isDigit := hcs ▸ isDigit_of_mem_decimal n
    have hzero : c ≠ '0' := head_decimal_ne_zero hn c (by rw [hcs]; rfl)
    have hvalue : (c :: ds).foldl (fun n c => 10 * n + digitValue c) 0 = n := by
      rw [← hcs]
      exact decimalValue_decimal n
    have hsplit := takeWhile_isDigit (fun d hd => hdigits d (List.mem_cons_of_mem c hd))
      fun d hd => (hrest d hd).1
    have hsignificand : extendSignificand 0 (c :: ds) = (n, 0) := by
      rw [extendSignificand_eq (by rw [hvalue, largestWord]; omega), hvalue]
    rw [hcs, List.cons_append]
    unfold readMagnitude
    split
    · rename_i h
      cases h
    · rename_i h
      cases h
      exact absurd rfl hzero
    · rename_i h
      cases h
      rw [if_pos (hdigits c List.mem_cons_self), hsplit.1, hsplit.2, hsignificand]
      exact htail

lemma decodes_integer {P : Int → Prop} [DecidablePred P] {n : Int} (bound : Nat) (h : P n)
    (hle : n.natAbs ≤ 0x8000000000000000) :
    Decodes bound (readInteger P) (.number n) ⟨n, h⟩ := by
  intro cs hcs _ b rest hb hrest
  cases hcs
  rw [readInteger, skipJsonBlanks_append hb, decimalInt]
  by_cases hneg : n < 0
  · have hread := readMagnitude_decimal true hrest (n := n.natAbs) (by intro; omega) hle
    have hn : -(n.natAbs : Int) = n := by omega
    rw [if_pos hneg, List.cons_append, skipJsonBlanks_cons rfl]
    simp only [hread, if_true, hn]
    exact dif_pos h
  · have hread := readMagnitude_decimal false hrest (n := n.natAbs) (by simp) hle
    obtain ⟨c, ds, hcs⟩ := List.exists_cons_of_ne_nil (decimal_ne_nil n.natAbs)
    have hdigit : c.isDigit := isDigit_of_mem_decimal _ c (by rw [hcs]; exact List.mem_cons_self)
    have hn : (n.natAbs : Int) = n := by omega
    rw [hcs, List.cons_append] at hread
    rw [if_neg hneg, hcs, List.cons_append, skipJsonBlanks_cons (not_isJsonBlank_of_isDigit hdigit)]
    split
    · rename_i heq
      cases heq
    · rename_i heq
      cases heq
      cases hdigit
    · rename_i heq
      cases heq
      simp only [if_pos hdigit, hread, Bool.false_eq_true, if_false, hn]
      exact dif_pos h

end AlbumCatalog
