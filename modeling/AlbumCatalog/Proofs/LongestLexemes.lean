import AlbumCatalog.Proofs.Scanning

/-!
# Reading by longest lexemes

A text is read by cutting it into blanks and lexemes, each as long as it can be. `LongestReading`
says this without the scanner, and which token stands for each lexeme. The tokens of a text are
those of its one reading.
-/

namespace AlbumCatalog

/-- Of the pieces with a property that a text starts with, `w` is the longest. -/
structure IsLongest (p : List Char → Prop) (cs w : List Char) : Prop where
  starts : w <+: cs
  holds : p w
  length_le : ∀ v, v <+: cs → p v → v.length ≤ w.length

/-- A piece of text that stands for a token: a word, a sign or a string. -/
def IsLexeme (w : List Char) : Prop :=
  ∃ x, Spelling x w

/-- The text starts with something that is no lexeme. The message says what it is. -/
inductive Unreadable : List Char → String → Prop
  | openString {q : Char} {s : List Char} (hq : isQuote q) (hs : q ∉ s) :
      Unreadable (q :: s) "didn't find end quote in string"
  | bang {rest : List Char} (hrest : rest.head? ≠ some '=') :
      Unreadable ('!' :: rest) "unexpected character '!'"
  | character {c : Char} {rest : List Char} (hblank : ¬ isBlank c) (hletter : ¬ isLetter c)
      (hquote : ¬ isQuote c) (hsign : c ∉ ['[', ']', ',', '=', '!', '<', '>']) :
      Unreadable (c :: rest) ("unexpected character '" ++ c.toString ++ "'")

/-- The tokens of a text behind a part that has been read. Each stands where its lexeme begins. -/
inductive LongestReading : List Char → List Char → List Token → Prop
  | endOfLine {before b : List Char} (hb : IsBlanks b) :
      LongestReading before b [⟨byteLength (before ++ b), .endOfLine, ""⟩]
  | illegal {before b rest : List Char} {message : String}
      (hb : IsLongest IsBlanks (b ++ rest) b) (hrest : Unreadable rest message) :
      LongestReading before (b ++ rest) [⟨byteLength (before ++ b), .illegal, message⟩]
  | symbol {before b w rest : List Char} {x : Symbol} {ts : List Token}
      (hb : IsLongest IsBlanks (b ++ (w ++ rest)) b) (hw : IsLongest IsLexeme (w ++ rest) w)
      (hx : Spelling x w) (hrest : LongestReading (before ++ b ++ w) rest ts) :
      LongestReading before (b ++ (w ++ rest))
        (⟨byteLength (before ++ b), x.kind, x.literal⟩ :: ts)

/-! ### Longest pieces -/

lemma IsLongest.unique {p : List Char → Prop} {cs v w : List Char} (hv : IsLongest p cs v)
    (hw : IsLongest p cs w) : v = w := by
  have hlength : v.length = w.length :=
    le_antisymm (hw.length_le v hv.starts hv.holds) (hv.length_le w hw.starts hw.holds)
  exact (List.prefix_of_prefix_length_le hv.starts hw.starts hlength.le).eq_of_length hlength

lemma length_le_takeWhile {p : Char → Bool} {v cs : List Char} (hv : v <+: cs)
    (hp : ∀ c ∈ v, p c) : v.length ≤ (cs.takeWhile p).length := by
  obtain ⟨rest, rfl⟩ := hv
  rw [List.takeWhile_append_of_pos hp, List.length_append]
  exact Nat.le_add_right _ _

lemma isLongest_blanks (cs : List Char) : IsLongest IsBlanks cs (cs.takeWhile isBlank) :=
  ⟨List.takeWhile_prefix _, fun _ hc => List.mem_takeWhile_imp hc,
    fun _ hv hb => length_le_takeWhile hv hb⟩

lemma isLongest_blanks_append {b rest : List Char} (hb : IsBlanks b)
    (hrest : ∀ c ∈ rest.head?, isBlank c = false) : IsLongest IsBlanks (b ++ rest) b := by
  have h := isLongest_blanks (b ++ rest)
  rwa [takeWhile_append_of_head hb hrest] at h

/-- A word or a sign can be written as one symbol only. -/
lemma Spelling.unique {x y : Symbol} {w : List Char} (hx : Spelling x w) (hy : Spelling y w) :
    x = y := by
  have hends : ∀ z : Symbol, Ends z [] := fun z => ⟨by simp, by simp⟩
  have h := (Lexeme.first_of_spelling hx (hends x)).symm.trans
    (Lexeme.first_of_spelling hy (hends y))
  rw [Lexeme.mk.injEq] at h
  obtain ⟨kind, literal⟩ := x
  rw [Symbol.mk.injEq]
  exact ⟨h.1, h.2.1⟩

namespace Lexeme

lemma not_isFinal_word (w : List Char) : ¬ (word w).kind.isFinal := by
  intro hfinal
  have hkind := word_kind w
  rcases TokenKind.isFinal_iff.mp hfinal with h | h
  all_goals
    rw [h] at hkind
    cases hkind

/-- Where a text starts with a lexeme, the scanner is at no fault and takes at least as much. -/
lemma length_le_first {y : Symbol} {s v : List Char} (hy : Spelling y v) (hv : v <+: s) :
    ¬ (first s).kind.isFinal ∧ v.length ≤ (first s).source.length := by
  have hword : IsWord v → ¬ (first s).kind.isFinal ∧ v.length ≤ (first s).source.length := by
    rintro ⟨c, tail, rfl, hc, htail⟩
    obtain ⟨rest, rfl⟩ := hv
    rw [List.cons_append, first_cons_of_isLetter hc, word_source]
    refine ⟨not_isFinal_word _, ?_⟩
    simpa using length_le_takeWhile (List.prefix_append tail rest) htail
  cases hy with
  | field hw => exact hword hw.1
  | keyword hk hw => exact hword (isWord_of_spells hk hw)
  | @sign k hk =>
    obtain ⟨rest, rfl⟩ := hv
    cases k with
    | lt | gt =>
      -- an equals sign behind it makes the sign longer
      by_cases hrest : rest.head? = some '='
      · obtain ⟨rest, rfl⟩ : ∃ tail, rest = '=' :: tail := by
          cases rest with
          | nil => cases hrest
          | cons c tail =>
            cases hrest
            exact ⟨tail, rfl⟩
        exact ⟨Bool.false_ne_true, Nat.le_succ 1⟩
      · rw [first_of_isSign hk fun _ => hrest]
        exact ⟨by decide, le_rfl⟩
    | eq | ne | le | ge | leftBracket | rightBracket | comma =>
      rw [first_of_isSign hk (by simp)]
      exact ⟨by decide, le_rfl⟩
    | _ => cases hk
  | string hq hs =>
    obtain ⟨rest, rfl⟩ := hv
    rw [first_of_isQuote hq hs]
    exact ⟨by simp [TokenKind.isFinal], le_rfl⟩

lemma isLongest_first {s : List Char} (h : ¬ (first s).kind.isFinal) :
    IsLongest IsLexeme s (first s).source := by
  obtain ⟨rest, hsplit, -⟩ := first_source_append s
  refine ⟨⟨rest, hsplit.symm⟩, ?_, fun v hv hlexeme => ?_⟩
  · rw [TokenKind.isFinal_iff, not_or] at h
    exact ⟨_, spelling_first h.1 h.2⟩
  · obtain ⟨y, hy⟩ := hlexeme
    exact (length_le_first hy hv).2

/-! ### Faults -/

lemma unreadable_quoted {q : Char} {rest : List Char} (hq : isQuote q)
    (h : (quoted q rest).kind = .illegal) : Unreadable (q :: rest) (quoted q rest).literal := by
  cases hd : rest.dropWhile (· != q) with
  | nil =>
    have hs : q ∉ rest := by
      intro hmem
      simpa using List.dropWhile_eq_nil_iff.mp hd q hmem
    simpa only [quoted, hd] using Unreadable.openString hq hs
  | cons c after =>
    simp [quoted, hd] at h

lemma unreadable_symbol {c : Char} {rest : List Char} (hblank : ¬ isBlank c) (hc : ¬ isLetter c)
    (hq : ¬ isQuote c) (h : (symbol c rest).kind = .illegal) :
    Unreadable (c :: rest) (symbol c rest).literal := by
  unfold symbol at h ⊢
  split at h
  case h_10 hleft hright hcomma heq hlt hgt hne hle hge =>
    by_cases hbang : c = '!'
    · subst hbang
      refine Unreadable.bang fun hhead => ?_
      cases rest with
      | nil => cases hhead
      | cons d tail =>
        cases hhead
        exact hne tail rfl rfl
    · refine Unreadable.character hblank hc hq ?_
      simp only [List.mem_cons, List.not_mem_nil, or_false, not_or]
      exact ⟨hleft, hright, hcomma, heq, hbang, hlt, hgt⟩
  all_goals cases h

/-- Where the scanner is at a fault, the text cannot be read for the reason that it gives. -/
lemma unreadable_first {s : List Char} (hblank : ∀ c ∈ s.head?, isBlank c = false)
    (h : (first s).kind = .illegal) : Unreadable s (first s).literal := by
  cases s with
  | nil => cases h
  | cons c rest =>
    by_cases hc : isLetter c
    · rw [first_cons_of_isLetter hc] at h
      exact absurd (by rw [h]; rfl) (not_isFinal_word (c :: rest.takeWhile isWordChar))
    · by_cases hq : isQuote c
      · rw [first_cons_of_isQuote hq] at h ⊢
        exact unreadable_quoted hq h
      · rw [first_cons_of_not hc hq] at h ⊢
        exact unreadable_symbol (by simp [hblank c rfl]) hc hq h

lemma first_of_unreadable {s : List Char} {message : String} (h : Unreadable s message) :
    (first s).kind = .illegal ∧ (first s).literal = message := by
  cases h with
  | @openString q s hq hs =>
    have hdrop : s.dropWhile (· != q) = [] := by
      rw [List.dropWhile_eq_nil_iff]
      intro c hc
      simp only [bne_iff_ne, ne_eq]
      rintro rfl
      exact hs hc
    rw [first_cons_of_isQuote hq]
    simp [quoted, hdrop]
  | @bang rest hrest =>
    rw [first_cons_of_not (by decide) (by decide)]
    unfold symbol
    split
    case h_5 => simp at hrest
    case h_10 => exact ⟨rfl, rfl⟩
    all_goals simp_all
  | @character c rest hblank hletter hquote hsign =>
    rw [first_cons_of_not hletter hquote]
    unfold symbol
    split
    case h_10 => exact ⟨rfl, rfl⟩
    all_goals simp at hsign

end Lexeme

/-! ### The reading of a text -/

/-- What holds where scanning ends, and where one scan goes before, holds of every place. -/
lemma Cursor.scan_induction {P : Cursor → Prop}
    (final : ∀ c : Cursor, c.scan.1.kind.isFinal → P c)
    (next : ∀ c : Cursor, ¬ c.scan.1.kind.isFinal → P c.scan.2 → P c) (c : Cursor) : P c := by
  induction c, ([] : List Token) using Cursor.collect.induct with
  | case1 c xs hfinal => exact final c hfinal
  | case2 c xs hfinal ih => exact next c hfinal ih

/-- A scan passes over the longest run of blanks and takes the lexeme behind it. -/
lemma Cursor.scan_of_blanks {n : Nat} {b rest : List Char} (hb : IsLongest IsBlanks (b ++ rest) b) :
    scan ⟨n, b ++ rest⟩ =
      (⟨n + byteLength b, (Lexeme.first rest).kind, (Lexeme.first rest).literal⟩,
        ⟨n + byteLength b + byteLength (Lexeme.first rest).source,
          rest.drop (Lexeme.first rest).source.length⟩) := by
  have htake : (b ++ rest).takeWhile isBlank = b := (isLongest_blanks _).unique hb
  have hdrop : (b ++ rest).dropWhile isBlank = rest := by
    have hsplit := List.takeWhile_append_dropWhile (p := isBlank) (l := b ++ rest)
    rw [htake] at hsplit
    exact List.append_cancel_left hsplit
  simp only [scan, htake, hdrop]

lemma Cursor.longestReading_line (c : Cursor) (before : List Char)
    (hoffset : c.offset = byteLength before) : LongestReading before c.rest c.line.toList := by
  induction c using Cursor.scan_induction generalizing before with
  | final c hfinal =>
    obtain ⟨b, post, rest, hpost, hb, hblank, -, -, hscan⟩ := c.scan_spec
    rw [line_toList, if_pos hfinal, hscan, hpost, hoffset, ← byteLength_append]
    rw [hscan] at hfinal
    change LongestReading before (b ++ post)
      [⟨byteLength (before ++ b), (Lexeme.first post).kind, (Lexeme.first post).literal⟩]
    rcases TokenKind.isFinal_iff.mp hfinal with
      (hkind : (Lexeme.first post).kind = .illegal) | (hkind : (Lexeme.first post).kind = .endOfLine)
    · rw [hkind]
      exact .illegal (isLongest_blanks_append hb hblank) (Lexeme.unreadable_first hblank hkind)
    · obtain rfl := Lexeme.eq_nil_of_kind hkind
      rw [List.append_nil]
      exact .endOfLine hb
  | next c hfinal ih =>
    obtain ⟨b, post, rest, hpost, hb, hblank, hsplit, -, hscan⟩ := c.scan_spec
    rw [line_toList, if_neg hfinal]
    rw [hscan] at hfinal ih ⊢
    obtain ⟨hillegal, hend⟩ := not_or.mp (mt TokenKind.isFinal_iff.mpr hfinal)
    have hspelling := Lexeme.spelling_first hillegal hend
    have hlongest := Lexeme.isLongest_first hfinal
    have hblanks := isLongest_blanks_append hb hblank
    have hread : LongestReading (before ++ b ++ (Lexeme.first post).source) rest _ :=
      ih _ (by simp only [hoffset, byteLength_append])
    rw [hpost, hoffset, ← byteLength_append] at *
    generalize (Lexeme.first post).source = w at *
    subst hsplit
    exact .symbol hblanks hlongest hspelling hread

lemma LongestReading.line {before cs : List Char} {ts : List Token}
    (h : LongestReading before cs ts) :
    (Cursor.mk (byteLength before) cs).line.toList = ts := by
  induction h with
  | @endOfLine before b hb =>
    have hlongest : IsLongest IsBlanks (b ++ []) b := isLongest_blanks_append hb (by simp)
    have hscan := Cursor.scan_of_blanks (n := byteLength before) hlongest
    rw [List.append_nil] at hscan
    rw [Cursor.line_toList, hscan]
    simp [Lexeme.first, Lexeme.sign, TokenKind.isFinal]
  | @illegal before b rest message hb hrest =>
    obtain ⟨hkind, hliteral⟩ := Lexeme.first_of_unreadable hrest
    rw [Cursor.line_toList, Cursor.scan_of_blanks hb, hkind, hliteral, byteLength_append]
    rfl
  | @symbol before b w rest x ts hb hw hx hrest ih =>
    obtain ⟨hfinal, -⟩ := Lexeme.length_le_first hx hw.starts
    have hsource := (Lexeme.isLongest_first hfinal).unique hw
    obtain ⟨hillegal, hend⟩ := not_or.mp (mt TokenKind.isFinal_iff.mpr hfinal)
    have hspelling := Lexeme.spelling_first hillegal hend
    rw [hsource] at hspelling
    obtain rfl := hspelling.unique hx
    rw [Cursor.line_toList, Cursor.scan_of_blanks hb, hsource, if_neg hfinal, List.drop_left,
      ← byteLength_append, ← byteLength_append, ih]

lemma LongestReading.position_of_endOfLine {before cs : List Char} {ts : List Token} {t : Token}
    (h : LongestReading before cs ts) (ht : t ∈ ts) (hend : t.kind = .endOfLine) :
    t.position = byteLength (before ++ cs) := by
  induction h with
  | endOfLine hb => rw [List.mem_singleton.mp ht]
  | illegal hb hrest =>
    rw [List.mem_singleton.mp ht] at hend
    cases hend
  | symbol hb hw hx hrest ih =>
    rcases List.mem_cons.mp ht with rfl | ht
    · exact absurd (TokenKind.isFinal_iff.mpr (.inr hend)) hx.not_isFinal
    · rw [ih ht, List.append_assoc, List.append_assoc]

/-- The tokens of a text are those of its reading by longest lexemes, which is its only one. The
last of them, and no other, is an end or a fault; an end stands behind the whole text. -/
theorem tokenize_eq_iff_longestReading (text : String) :
    (∀ ts, (tokenize text).toList = ts ↔ LongestReading [] text.toList ts) ∧
    (∀ t ∈ (tokenize text).body, ¬ t.kind.isFinal) ∧ (tokenize text).last.kind.isFinal ∧
    ((tokenize text).last.kind = .endOfLine →
      (tokenize text).last.position = text.utf8ByteSize) := by
  have hreading := (Cursor.start text).longestReading_line [] rfl
  have hlast := (Cursor.start text).last_isFinal []
  refine ⟨fun ts => ⟨?_, fun h => h.line⟩, fun t ht => Cursor.body_not_isFinal ht, hlast, ?_⟩
  · rintro rfl
    exact hreading
  · intro hend
    rw [hreading.position_of_endOfLine (by simp [Cursor.line, TokenLine.toList, tokenize]) hend,
      List.nil_append, ← utf8ByteSize_ofList]
    exact congrArg String.utf8ByteSize String.ofList_toList

/-- A string without its end is illegal where it begins. -/
example : (tokenize "tag <='b").toList =
    [⟨0, .field, "tag"⟩, ⟨4, .le, ""⟩, ⟨6, .illegal, "didn't find end quote in string"⟩] := by
  decide +kernel

end AlbumCatalog
