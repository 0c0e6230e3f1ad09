import AlbumCatalog.Proofs.Layout
import Mathlib.Data.List.Chain

/-!
# Scanning reads layouts

The scanner takes the longest lexeme at its place. This file shows that the tokens of a text are
the symbols that the text lays out, and where in the text each of them stands.
-/

namespace AlbumCatalog

/-- The text behind a symbol does not make it longer. -/
def Ends (x : Symbol) (rest : List Char) : Prop :=
  (x.kind.isWord → ∀ c ∈ rest.head?, isWordChar c = false) ∧
    (x.kind = .lt ∨ x.kind = .gt → rest.head? ≠ some '=')

lemma utf8ByteSize_ofList (cs : List Char) : (String.ofList cs).utf8ByteSize = byteLength cs := by
  induction cs with
  | nil => rfl
  | cons c cs ih =>
    rw [String.ofList_cons, String.utf8ByteSize_append, String.utf8ByteSize_singleton, ih,
      byteLength_cons]

/-! ### Single lexemes -/

lemma TokenKind.keyword?_eq_some_iff {w : List Char} {k : TokenKind} :
    keyword? w = some k ↔ k.isKeyword ∧ Spells w k := by
  unfold keyword? Spells
  constructor
  · intro h
    split at h
    all_goals cases h
    all_goals rename_i hw; exact ⟨rfl, hw⟩
  · rintro ⟨hk, hw⟩
    cases k with
    | and | or | like | oneOf => simp [hw, name]
    | _ => cases hk

lemma Lexeme.word_of_keyword {w : List Char} {k : TokenKind} (hk : k.isKeyword)
    (hw : Spells w k) : word w = ⟨k, "", w⟩ := by
  simp [word, TokenKind.keyword?_eq_some_iff.mpr ⟨hk, hw⟩, sign]

lemma Lexeme.word_of_isFieldName {w : List Char} (hw : IsFieldName w) :
    word w = ⟨.field, String.ofList w, w⟩ := by
  have h : TokenKind.keyword? w = none := by
    rw [Option.eq_none_iff_forall_ne_some]
    intro k hk
    obtain ⟨hk, hs⟩ := TokenKind.keyword?_eq_some_iff.mp hk
    exact hw.2 k hk hs
  simp [word, h]

lemma takeWhile_append_of_head {p : Char → Bool} {w rest : List Char} (hw : ∀ c ∈ w, p c)
    (hrest : ∀ c ∈ rest.head?, p c = false) : (w ++ rest).takeWhile p = w := by
  rw [List.takeWhile_append_of_pos hw]
  cases rest with
  | nil => simp
  | cons c rest => simp [hrest c rfl]

lemma Lexeme.first_cons_of_isLetter {c : Char} {rest : List Char} (hc : isLetter c) :
    first (c :: rest) = word (c :: rest.takeWhile isWordChar) := by
  simp [first, hc]

lemma Lexeme.first_cons_of_isQuote {q : Char} {rest : List Char} (hq : isQuote q) :
    first (q :: rest) = quoted q rest := by
  have hl : isLetter q = false := by
    have := not_isWordChar_of_isQuote hq
    simp only [isWordChar, Bool.or_eq_false_iff] at this
    exact this.1
  simp [first, hl, hq]

lemma Lexeme.first_cons_of_not {c : Char} {rest : List Char} (hc : ¬ isLetter c)
    (hq : ¬ isQuote c) : first (c :: rest) = symbol c rest := by
  simp [first, hc, hq]

lemma Lexeme.first_of_isWord {w rest : List Char} (hw : IsWord w)
    (hrest : ∀ c ∈ rest.head?, isWordChar c = false) : first (w ++ rest) = word w := by
  obtain ⟨c, w, rfl, hc, hw⟩ := hw
  rw [List.cons_append, first_cons_of_isLetter hc, takeWhile_append_of_head hw hrest]

lemma Lexeme.first_of_isQuote {q : Char} {s rest : List Char} (hq : isQuote q) (hs : q ∉ s) :
    first (q :: s ++ [q] ++ rest) = ⟨.string, String.ofList s, q :: s ++ [q]⟩ := by
  have hs : ∀ c ∈ s, (c != q) = true := by
    rintro c hc
    simp only [bne_iff_ne, ne_eq]
    rintro rfl
    exact hs hc
  have htake : (s ++ q :: rest).takeWhile (· != q) = s := takeWhile_append_of_head hs (by simp)
  have hdrop : (s ++ q :: rest).dropWhile (· != q) = q :: rest := by
    rw [List.dropWhile_append_of_pos hs]
    simp
  rw [List.append_assoc, List.cons_append, first_cons_of_isQuote hq]
  simp [quoted, htake, hdrop]

lemma Lexeme.first_of_isSign {k : TokenKind} {rest : List Char} (hk : k.isSign)
    (hrest : k = .lt ∨ k = .gt → rest.head? ≠ some '=') :
    first (k.name.toList ++ rest) = ⟨k, "", k.name.toList⟩ := by
  cases k with
  | lt | gt =>
    cases rest with
    | nil => rfl
    | cons c rest =>
      have hc : c ≠ '=' := by simpa using hrest (by simp)
      simp [first, isLetter, isQuote, TokenKind.name, symbol, hc, sign]
  | eq | ne | le | ge | leftBracket | rightBracket | comma => rfl
  | _ => cases hk

/-- A written symbol is scanned as it was meant if the text behind it does not make it longer. -/
lemma Lexeme.first_of_spelling {x : Symbol} {w rest : List Char} (hx : Spelling x w)
    (hrest : Ends x rest) : first (w ++ rest) = ⟨x.kind, x.literal, w⟩ := by
  cases hx with
  | field hw => rw [first_of_isWord hw.1 (hrest.1 rfl), word_of_isFieldName hw]
  | keyword hk hw =>
    rw [first_of_isWord (isWord_of_spells hk hw) (hrest.1 (by simp [TokenKind.isWord, hk])),
      word_of_keyword hk hw]
  | sign hk => exact first_of_isSign hk hrest.2
  | string hq hs => exact first_of_isQuote hq hs

lemma Lexeme.spelling_word {w : List Char} (hw : IsWord w) :
    Spelling ⟨(word w).kind, (word w).literal⟩ (word w).source := by
  cases h : TokenKind.keyword? w with
  | some k =>
    obtain ⟨hk, hs⟩ := TokenKind.keyword?_eq_some_iff.mp h
    rw [word_of_keyword hk hs]
    exact .keyword hk hs
  | none =>
    have hname : IsFieldName w := by
      refine ⟨hw, ?_⟩
      intro k hk hs
      rw [TokenKind.keyword?_eq_some_iff.mpr ⟨hk, hs⟩] at h
      cases h
    rw [word_of_isFieldName hname]
    exact .field hname

lemma Lexeme.spelling_quoted {q : Char} {rest : List Char} (hq : isQuote q)
    (h : (quoted q rest).kind ≠ .illegal) :
    Spelling ⟨(quoted q rest).kind, (quoted q rest).literal⟩ (quoted q rest).source := by
  cases hd : rest.dropWhile (· != q) with
  | nil => exact absurd (by simp [quoted, hd]) h
  | cons c after =>
    have hs : q ∉ rest.takeWhile (· != q) := by
      intro hmem
      simpa using List.mem_takeWhile_imp hmem
    simpa only [quoted, hd] using Spelling.string hq hs

lemma Lexeme.spelling_symbol {c : Char} {rest : List Char} (h : (symbol c rest).kind ≠ .illegal) :
    Spelling ⟨(symbol c rest).kind, (symbol c rest).literal⟩ (symbol c rest).source := by
  unfold symbol at h ⊢
  split at h
  all_goals first | exact Spelling.sign rfl | exact absurd rfl h

/-- Where scanning is not at an end or a fault, what it takes is a spelling of what it gives. -/
lemma Lexeme.spelling_first {s : List Char} (hi : (first s).kind ≠ .illegal)
    (he : (first s).kind ≠ .endOfLine) :
    Spelling ⟨(first s).kind, (first s).literal⟩ (first s).source := by
  cases s with
  | nil => exact absurd rfl he
  | cons c rest =>
    by_cases hc : isLetter c
    · rw [first_cons_of_isLetter hc]
      exact spelling_word ⟨c, _, rfl, hc, fun d hd => List.mem_takeWhile_imp hd⟩
    · by_cases hq : isQuote c
      · rw [first_cons_of_isQuote hq] at hi ⊢
        exact spelling_quoted hq hi
      · rw [first_cons_of_not hc hq] at hi ⊢
        exact spelling_symbol hi

lemma Lexeme.quoted_source_append (q : Char) (rest : List Char) :
    ∃ after, q :: rest = (quoted q rest).source ++ after := by
  cases hd : rest.dropWhile (· != q) with
  | nil => exact ⟨[], by simp [quoted, hd]⟩
  | cons c after =>
    have hc : c = q := by simpa [hd] using List.head?_dropWhile_not (· != q) rest
    refine ⟨after, ?_⟩
    have hsplit := List.takeWhile_append_dropWhile (p := (· != q)) (l := rest)
    simp only [hd, hc] at hsplit
    simp [quoted, hd, hsplit]

lemma Lexeme.quoted_kind (q : Char) (rest : List Char) : (quoted q rest).kind.isWord = false := by
  unfold quoted
  split <;> rfl

lemma Lexeme.symbol_source_append (c : Char) (rest : List Char) :
    ∃ after, c :: rest = (symbol c rest).source ++ after := by
  unfold symbol
  split <;> exact ⟨_, rfl⟩

lemma Lexeme.symbol_kind (c : Char) (rest : List Char) : (symbol c rest).kind.isWord = false := by
  unfold symbol
  split <;> rfl

/-- A lexeme is a piece at the start of the text, and a word is not cut short. -/
lemma Lexeme.first_source_append (s : List Char) :
    ∃ rest, s = (first s).source ++ rest ∧
      ((first s).kind.isWord → ∀ c ∈ rest.head?, isWordChar c = false) := by
  cases s with
  | nil => exact ⟨[], rfl, by simp⟩
  | cons c rest =>
    by_cases hc : isLetter c
    · rw [first_cons_of_isLetter hc, word_source]
      refine ⟨rest.dropWhile isWordChar, by simp, ?_⟩
      rintro - d hd
      have := List.head?_dropWhile_not isWordChar rest
      rwa [Option.mem_def.mp hd] at this
    · by_cases hq : isQuote c
      · rw [first_cons_of_isQuote hq]
        obtain ⟨after, hafter⟩ := quoted_source_append c rest
        exact ⟨after, hafter, by simp [quoted_kind]⟩
      · rw [first_cons_of_not hc hq]
        obtain ⟨after, hafter⟩ := symbol_source_append c rest
        exact ⟨after, hafter, by simp [symbol_kind]⟩

lemma Lexeme.word_kind (w : List Char) : (word w).kind.isWord = true := by
  cases h : TokenKind.keyword? w with
  | some k =>
    obtain ⟨hk, -⟩ := TokenKind.keyword?_eq_some_iff.mp h
    simp [word, h, sign, TokenKind.isWord, hk]
  | none =>
    simp [word, h, TokenKind.isWord]

lemma Lexeme.eq_nil_of_kind {s : List Char} (h : (first s).kind = .endOfLine) : s = [] := by
  cases s with
  | nil => rfl
  | cons c rest =>
    exfalso
    by_cases hc : isLetter c
    · rw [first_cons_of_isLetter hc] at h
      have hword := word_kind (c :: rest.takeWhile isWordChar)
      rw [h] at hword
      cases hword
    · by_cases hq : isQuote c
      · rw [first_cons_of_isQuote hq] at h
        unfold quoted at h
        split at h <;> cases h
      · rw [first_cons_of_not hc hq] at h
        unfold symbol at h
        split at h <;> cases h

/-! ### Single scans -/

/-- What one scan does: it passes over the blanks and takes the lexeme behind them. -/
lemma Cursor.scan_spec (c : Cursor) :
    ∃ b post rest, c.rest = b ++ post ∧ IsBlanks b ∧ (∀ d ∈ post.head?, isBlank d = false) ∧
      post = (Lexeme.first post).source ++ rest ∧
      ((Lexeme.first post).kind.isWord → ∀ d ∈ rest.head?, isWordChar d = false) ∧
      c.scan = (⟨c.offset + byteLength b, (Lexeme.first post).kind, (Lexeme.first post).literal⟩,
        ⟨c.offset + byteLength b + byteLength (Lexeme.first post).source, rest⟩) := by
  obtain ⟨rest, hsplit, hword⟩ := Lexeme.first_source_append (c.rest.dropWhile isBlank)
  have hrest := congrArg (List.drop (Lexeme.first (c.rest.dropWhile isBlank)).source.length) hsplit
  rw [List.drop_left] at hrest
  refine ⟨c.rest.takeWhile isBlank, c.rest.dropWhile isBlank, rest, ?_, ?_, ?_, hsplit, hword, ?_⟩
  · rw [List.takeWhile_append_dropWhile]
  · exact fun d hd => List.mem_takeWhile_imp hd
  · intro d hd
    have := List.head?_dropWhile_not isBlank c.rest
    rwa [Option.mem_def.mp hd] at this
  · simp only [scan, hrest]

lemma Cursor.scan_of_not_final {c : Cursor} (h : ¬ c.scan.1.kind.isFinal) :
    ∃ b w, IsBlanks b ∧ Spelling c.scan.1.symbol w ∧ c.rest = b ++ w ++ c.scan.2.rest ∧
      c.scan.2.offset = c.offset + byteLength b + byteLength w ∧
      (c.scan.1.symbol.kind.isWord → ∀ d ∈ c.scan.2.rest.head?, isWordChar d = false) := by
  obtain ⟨b, post, rest, hpost, hb, -, hsplit, hword, hscan⟩ := c.scan_spec
  rw [hscan] at h ⊢
  have hspell : Spelling ⟨(Lexeme.first post).kind, (Lexeme.first post).literal⟩
      (Lexeme.first post).source := by
    apply Lexeme.spelling_first
    · intro hk
      simp [hk, TokenKind.isFinal] at h
    · intro hk
      simp [hk, TokenKind.isFinal] at h
  refine ⟨b, (Lexeme.first post).source, hb, hspell, ?_, rfl, hword⟩
  rw [hpost, List.append_assoc, ← hsplit]

/-- A scan takes the symbol that is written at its place. -/
lemma Cursor.scan_of_spelling {n : Nat} {b w rest : List Char} {x : Symbol} (hb : IsBlanks b)
    (hx : Spelling x w) (hrest : Ends x rest) :
    scan ⟨n, b ++ w ++ rest⟩ = (⟨n + byteLength b, x.kind, x.literal⟩,
      ⟨n + byteLength b + byteLength w, rest⟩) := by
  obtain ⟨c, w', rfl, hc, -⟩ := hx.exists_cons
  have hblank : ∀ d ∈ (c :: w' ++ rest).head?, isBlank d = false := by
    simpa using hc
  have htake : (b ++ (c :: w' ++ rest)).takeWhile isBlank = b := takeWhile_append_of_head hb hblank
  have hdrop : (b ++ (c :: w' ++ rest)).dropWhile isBlank = c :: w' ++ rest := by
    rw [List.dropWhile_append_of_pos hb]
    simp [hc]
  simp only [scan, List.append_assoc, htake, hdrop, Lexeme.first_of_spelling hx hrest,
    List.drop_left]

/-! ### Whole lines -/

def Cursor.line (c : Cursor) : TokenLine :=
  c.collect []

lemma Cursor.collect_append (c : Cursor) (xs before : List Token) :
    c.collect (xs ++ before) = ⟨before.reverse ++ (c.collect xs).body, (c.collect xs).last⟩ := by
  induction c, xs using Cursor.collect.induct with
  | case1 c xs hfinal =>
    rw [collect, if_pos hfinal, collect, if_pos hfinal, List.reverse_append]
  | case2 c xs hfinal ih =>
    rw [collect, if_neg hfinal, ← List.cons_append, ih]
    rw [collect.eq_def c xs, if_neg hfinal]

lemma Cursor.line_of_final {c : Cursor} (h : c.scan.1.kind.isFinal) : c.line = ⟨[], c.scan.1⟩ := by
  rw [line, collect, if_pos h]
  rfl

lemma Cursor.line_of_not_final {c : Cursor} (h : ¬ c.scan.1.kind.isFinal) :
    c.line = ⟨c.scan.1 :: c.scan.2.line.body, c.scan.2.line.last⟩ := by
  rw [line, collect, if_neg h]
  exact c.scan.2.collect_append [] [c.scan.1]

lemma Cursor.line_toList (c : Cursor) :
    c.line.toList = c.scan.1 :: if c.scan.1.kind.isFinal then [] else c.scan.2.line.toList := by
  by_cases h : c.scan.1.kind.isFinal
  · simp [line_of_final h, TokenLine.toList, h]
  · simp [line_of_not_final h, TokenLine.toList, h]

lemma Cursor.line_split_from {c : Cursor} {afterWord : Bool}
    (hw : afterWord → ∀ d ∈ c.rest.head?, isWordChar d = false) {before after : List Token}
    {t : Token} (h : c.line.toList = before ++ t :: after) :
    ∃ pre post, c.rest = pre ++ post ∧ Layout afterWord (before.map Token.symbol) pre ∧
      t = ⟨c.offset + byteLength pre, (Lexeme.first post).kind, (Lexeme.first post).literal⟩ := by
  -- what is known of the text behind a word becomes the gap before the next symbol
  induction before generalizing c afterWord with
  | nil =>
    obtain ⟨b, post, rest, hpost, hb, -, -, -, hscan⟩ := c.scan_spec
    rw [line_toList, hscan] at h
    cases h
    exact ⟨b, post, hpost, .blanks hb, rfl⟩
  | cons x before ih =>
    rw [line_toList, List.cons_append, List.cons.injEq] at h
    obtain ⟨rfl, h⟩ := h
    have hfinal : ¬ c.scan.1.kind.isFinal := by
      intro hfinal
      simp [hfinal] at h
    rw [if_neg hfinal] at h
    obtain ⟨b, w, hb, hspell, hrest, hoffset, hword⟩ := scan_of_not_final hfinal
    obtain ⟨pre, post, hpost, hlayout, ht⟩ := ih hword h
    refine ⟨b ++ w ++ pre, post, ?_, .symbol hb ?_ hspell hlayout, ?_⟩
    · rw [hrest, hpost]
      simp only [List.append_assoc]
    · rintro hafter hxword rfl
      obtain ⟨d, w', rfl, -, hd, -⟩ := hspell.exists_cons
      rw [hw hafter d (by simp [hrest]), hxword] at hd
      cases hd
    · rw [ht, hoffset]
      simp [Nat.add_assoc]

/-- Each token of a line stands behind a layout of the tokens before it, and is the lexeme of the
text at its place. -/
lemma Cursor.line_split {c : Cursor} {before after : List Token} {t : Token}
    (h : c.line.toList = before ++ t :: after) :
    ∃ pre post, c.rest = pre ++ post ∧ Layout false (before.map Token.symbol) pre ∧
      t = ⟨c.offset + byteLength pre, (Lexeme.first post).kind, (Lexeme.first post).literal⟩ :=
  line_split_from (by simp) h

lemma Cursor.line_toList_eq (c : Cursor) : c.line.toList = c.line.body ++ c.line.last :: [] := rfl

lemma Cursor.layout_of_last {c : Cursor} (h : c.line.last.kind = .endOfLine) :
    Layout false (c.line.body.map Token.symbol) c.rest := by
  obtain ⟨pre, post, hpost, hlayout, ht⟩ := line_split c.line_toList_eq
  have hnil : post = [] := by
    rw [ht] at h
    exact Lexeme.eq_nil_of_kind h
  rw [hpost, hnil, List.append_nil]
  exact hlayout

lemma Cursor.last_isFinal (c : Cursor) (before : List Token) :
    (c.collect before).last.kind.isFinal := by
  induction c, before using Cursor.collect.induct with
  | case1 c before hfinal => rwa [collect, if_pos hfinal]
  | case2 c before hfinal ih => rwa [collect, if_neg hfinal]

lemma Cursor.body_not_isFinal {c : Cursor} {t : Token} (ht : t ∈ c.line.body) :
    ¬ t.kind.isFinal := by
  obtain ⟨pre, post, -, hlayout, -⟩ := line_split c.line_toList_eq
  obtain ⟨w, hw⟩ := hlayout.exists_spelling t.symbol (List.mem_map_of_mem ht)
  exact hw.not_isFinal

lemma Cursor.scanTimes_eq_take {c : Cursor} {k : Nat} (hk : k ≤ c.line.toList.length) :
    scanTimes k c = c.line.toList.take k := by
  induction k generalizing c with
  | zero => rfl
  | succ k ih =>
    rw [line_toList] at hk ⊢
    rw [scanTimes, List.take_succ_cons]
    by_cases hfinal : c.scan.1.kind.isFinal
    · obtain rfl : k = 0 := by simpa [hfinal] using hk
      rfl
    · rw [if_neg hfinal] at hk ⊢
      rw [ih (by simpa using hk)]

/-! ### Reading a layout -/

/-- No order sign stands before an equals sign, with which it would make one sign. -/
def SignsApart (xs : List Symbol) : Prop :=
  xs.IsChain fun x y => (x.kind = .lt ∨ x.kind = .gt) → y.kind ≠ .eq

/-- A layout begins with a blank or with the first character of its first symbol. -/
lemma Layout.head {afterWord : Bool} {xs : List Symbol} {cs : List Char}
    (h : Layout afterWord xs cs) {c : Char} (hc : c ∈ cs.head?) :
    isBlank c ∨ ∃ x ∈ xs.head?, isWordChar c = x.kind.isWord ∧ (c = '=' → x.kind = .eq) ∧
      ¬ (afterWord ∧ x.kind.isWord) := by
  cases h with
  | blanks hb => exact Or.inl (hb c (List.mem_of_mem_head? hc))
  | @symbol _ b w rest x xs hb hgap hx hrest =>
    cases b with
    | nil =>
      obtain ⟨d, w, rfl, -, hd, heq⟩ := hx.exists_cons
      cases hc
      exact Or.inr ⟨x, rfl, hd, heq, fun hv => hgap hv.1 hv.2 rfl⟩
    | cons d b =>
      cases hc
      exact Or.inl (hb c List.mem_cons_self)

lemma Layout.ends {x : Symbol} {xs : List Symbol} {rest : List Char}
    (h : Layout x.kind.isWord xs rest) (hx : SignsApart (x :: xs)) : Ends x rest := by
  constructor
  · intro hword c hc
    rcases h.head hc with hb | ⟨y, -, hy, -, hgap⟩
    · by_contra hwc
      rw [not_isBlank_of_isWordChar (by simpa using hwc)] at hb
      cases hb
    · rw [hy]
      simpa [hword] using hgap
  · intro hsign hc
    rcases h.head hc with hb | ⟨y, hy, -, heq, -⟩
    · exact absurd hb (by decide)
    · cases xs with
      | nil => cases hy
      | cons z xs =>
        cases hy
        exact (List.isChain_cons_cons.mp hx).1 hsign (heq rfl)

/-- Scanning a layout gives its symbols and then the end. -/
lemma Layout.line {afterWord : Bool} {xs : List Symbol} {cs : List Char}
    (h : Layout afterWord xs cs) (hxs : SignsApart xs) (n : Nat) :
    (Cursor.mk n cs).line.body.map Token.symbol = xs ∧
      (Cursor.mk n cs).line.last.kind = .endOfLine := by
  induction h generalizing n with
  | @blanks _ b hb =>
    have hdrop : b.dropWhile isBlank = [] := List.dropWhile_eq_nil_iff.mpr hb
    have hlast : (Cursor.mk n b).scan.1.kind = .endOfLine := by
      simp [Cursor.scan, hdrop, Lexeme.first, Lexeme.sign]
    rw [Cursor.line_of_final (by rw [hlast]; rfl)]
    exact ⟨rfl, hlast⟩
  | @symbol _ b w rest x xs hb hgap hx hrest ih =>
    have hscan := Cursor.scan_of_spelling (n := n) hb hx (hrest.ends hxs)
    have hfinal : ¬ x.kind.isFinal := hx.not_isFinal
    rw [Cursor.line_of_not_final (by rw [hscan]; exact hfinal), hscan]
    obtain ⟨hbody, hlast⟩ := ih hxs.tail (n + byteLength b + byteLength w)
    exact ⟨by rw [List.map_cons, hbody]; rfl, hlast⟩

end AlbumCatalog
