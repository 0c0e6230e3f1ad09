import AlbumCatalog.Listing.Tokens
import AlbumCatalog.Proofs.AnsiCodes
import AlbumCatalog.Proofs.LongestLexemes

/-!
# Colors of the table of tokens

The table of the tokens of a text shows the same lines with colors and without, as long as every token
is legal. The name of an illegal token is red, and its codes count for the width of the cell, so that
cell is not filled up: without its codes the last line is the plain one less three blanks.
-/

namespace AlbumCatalog

/-! ### Literals -/

/-- The literal of a token is written in the text, or it says why the text cannot be read. -/
lemma LongestReading.token_cases {before s : List Char} {ts : List Token}
    (h : LongestReading before s ts) {t : Token} (ht : t ∈ ts) :
    t.symbol = ⟨.endOfLine, ""⟩ ∨ (∃ w, w <:+: s ∧ Spelling t.symbol w) ∨
      t.kind = .illegal ∧ ∃ rest, rest <:+: s ∧ Unreadable rest t.literal := by
  induction h with
  | endOfLine hb =>
    obtain rfl := List.mem_singleton.mp ht
    exact .inl rfl
  | @illegal _ b rest _ hb hrest =>
    obtain rfl := List.mem_singleton.mp ht
    exact .inr (.inr ⟨rfl, rest, (List.suffix_append b rest).isInfix, hrest⟩)
  | @symbol _ b w rest x ts hb hw hx hrest ih =>
    rcases List.mem_cons.mp ht with rfl | ht
    · exact .inr (.inl ⟨w, ⟨b, rest, List.append_assoc b w rest⟩, hx⟩)
    · have hsuffix : rest <:+: b ++ (w ++ rest) :=
        ((List.suffix_append w rest).trans (List.suffix_append b (w ++ rest))).isInfix
      rcases ih ht with hend | ⟨v, hv, hspelling⟩ | ⟨hkind, tail, htail, hunreadable⟩
      · exact .inl hend
      · exact .inr (.inl ⟨v, hv.trans hsuffix, hspelling⟩)
      · exact .inr (.inr ⟨hkind, tail, htail.trans hsuffix, hunreadable⟩)

section Control

variable {x : Char}

lemma Spelling.not_mem_literal {y : Symbol} {w : List Char} (h : Spelling y w) (hx : x ∉ w) :
    x ∉ y.literal.toList := by
  cases h with
  | field hw => rwa [String.toList_ofList]
  | keyword hk hw => exact List.not_mem_nil
  | sign hk => exact List.not_mem_nil
  | string hq hs =>
    rw [String.toList_ofList]
    exact fun hmem => hx (List.mem_append_left _ (List.mem_cons_of_mem _ hmem))

lemma Unreadable.not_mem_message (hx : x < ' ') {s : List Char} {message : String}
    (h : Unreadable s message) (hs : x ∉ s) : x ∉ message.toList := by
  cases h with
  | openString hq hs => exact not_mem_of_printable hx rfl
  | bang hrest => exact not_mem_of_printable hx rfl
  | @character c rest =>
    have hc : x ≠ c := fun hxc => hs (hxc ▸ List.mem_cons_self)
    have hopening : x ∉ "unexpected character '".toList := not_mem_of_printable hx rfl
    have hclosing : x ∉ "'".toList := not_mem_of_printable hx rfl
    simp only [String.toList_append, List.mem_append, not_or]
    exact ⟨⟨hopening, by simpa using hc⟩, hclosing⟩

lemma LongestReading.not_mem_literal (hx : x < ' ') {before s : List Char} {ts : List Token}
    (h : LongestReading before s ts) (hs : x ∉ s) {t : Token} (ht : t ∈ ts) :
    x ∉ t.literal.toList := by
  rcases h.token_cases ht with hend | ⟨w, hw, hspelling⟩ | ⟨-, rest, hrest, hunreadable⟩
  · rw [show t.literal = "" from congrArg Symbol.literal hend]
    exact List.not_mem_nil
  · exact hspelling.not_mem_literal fun hmem => hs (hw.subset hmem)
  · exact hunreadable.not_mem_message hx fun hmem => hs (hrest.subset hmem)

end Control

/-- What is said of an illegal token ends with no white space. -/
lemma Unreadable.exists_last {s : List Char} {message : String} (h : Unreadable s message) :
    ∃ start c, message.toList = start ++ [c] ∧ isWhite c = false := by
  cases h with
  | openString hq hs => exact ⟨"didn't find end quote in strin".toList, 'g', rfl, by decide⟩
  | bang hrest => exact ⟨"unexpected character '!".toList, '\'', rfl, by decide⟩
  | character => exact ⟨_, '\'', String.toList_append, by decide⟩

/-! ### Lines -/

lemma mem_of_mem_trimEnd {c : Char} {s : List Char} (h : c ∈ trimEnd s) : c ∈ s := by
  rw [trimEnd, List.mem_reverse] at h
  exact List.mem_reverse.mp ((List.dropWhile_sublist _).subset h)

lemma trimEnd_concat {c : Char} (h : isWhite c = false) (s : List Char) :
    trimEnd (s ++ [c]) = s ++ [c] := by
  rw [trimEnd, List.reverse_append, List.reverse_singleton, List.singleton_append,
    List.dropWhile_cons_of_neg (by simp [h]), List.reverse_cons, List.reverse_reverse]

lemma TokenKind.not_mem_name {x : Char} (hx : x < ' ') (k : TokenKind) : x ∉ k.name.toList := by
  apply not_mem_of_printable hx
  cases k <;> rfl

namespace Token

lemma not_mem_line {x : Char} (hx : x < ' ') {t : Token} (h : x ∉ t.literal.toList) :
    x ∉ t.line false := by
  intro hmem
  have hline := mem_of_mem_trimEnd hmem
  have hblank := ne_of_control hx le_rfl
  simp only [List.mem_append, List.mem_cons] at hline
  rcases hline with (hpos | hblank' | hname) | hblank' | hliteral
  · exact not_mem_padRight hx (not_mem_decimal hx _) hpos
  · exact hblank hblank'
  · exact not_mem_padRight hx (t.kind.not_mem_name hx) hname
  · exact hblank hblank'
  · exact h hliteral

lemma line_of_legal {t : Token} (h : t.kind ≠ .illegal) (colors : Bool) :
    t.line colors = t.line false := by
  have hkind : (t.kind == .illegal) = false := beq_eq_false_iff_ne.mpr h
  unfold line
  rw [hkind, Bool.and_false, Bool.and_false]

lemma line_of_illegal {t : Token} (h : t.kind = .illegal) {rest : List Char}
    (hrest : Unreadable rest t.literal) (colors : Bool) :
    t.line colors = padRight 5 (decimal t.position) ++ [' '] ++
      padRight 10 (Style.red.paintIf colors "illegal".toList) ++ [' '] ++ t.literal.toList := by
  obtain ⟨start, c, hliteral, hc⟩ := hrest.exists_last
  have htrim := trimEnd_concat hc (padRight 5 (decimal t.position) ++ [' '] ++
    padRight 10 (Style.red.paintIf colors "illegal".toList) ++ [' '] ++ start)
  unfold line tokenLine
  rw [h, hliteral, beq_self_eq_true, Bool.and_true, show TokenKind.illegal.name = "illegal" from rfl]
  simpa only [List.append_assoc, List.cons_append, List.nil_append] using htrim

lemma stripsTo_line_of_illegal {t : Token} (h : t.kind = .illegal) {rest : List Char}
    (hrest : Unreadable rest t.literal) (hescape : '\x1b' ∉ t.literal.toList) :
    StripsTo (t.line true) (padRight 5 (decimal t.position) ++ [' '] ++ "illegal ".toList ++
      t.literal.toList) := by
  have hposition : '\x1b' ∉ padRight 5 (decimal t.position) :=
    not_mem_padRight (by decide) (not_mem_decimal (by decide) _)
  have hblank : StripsTo [' '] [' '] := stripsTo_self (by decide)
  have hname : StripsTo (Style.red.paint "illegal".toList) "illegal".toList :=
    Style.red.stripsTo_paint (by decide)
  -- with its codes the name is longer than its cell
  have hcell : padRight 10 (Style.red.paintIf true "illegal".toList) =
      Style.red.paint "illegal".toList := by decide
  rw [line_of_illegal h hrest, hcell, show "illegal ".toList = "illegal".toList ++ [' '] from rfl,
    ← List.append_assoc]
  exact ((((stripsTo_self hposition).append hblank).append hname).append hblank).append
    (stripsTo_self hescape)

end Token

/-! ### The table -/

lemma tokenTable_eq (colors : Bool) (tokens : List Token) :
    (tokenTable colors tokens).toList = Style.dimmed.paintIf colors tokenHeader ++
      '\n' :: tokens.flatMap fun t => t.line colors ++ ['\n'] :=
  String.toList_ofList

lemma tokenTable_concat (colors : Bool) (tokens : List Token) (t : Token) :
    (tokenTable colors (tokens ++ [t])).toList =
      (tokenTable colors tokens).toList ++ (t.line colors ++ ['\n']) := by
  simp only [tokenTable_eq, List.flatMap_append, List.flatMap_singleton, List.append_assoc,
    List.cons_append]

lemma stripsTo_tokenTable {tokens : List Token}
    (h : ∀ t ∈ tokens, t.kind ≠ .illegal ∧ '\x1b' ∉ t.literal.toList) :
    StripsTo (tokenTable true tokens).toList (tokenTable false tokens).toList := by
  rw [tokenTable_eq, tokenTable_eq]
  refine stripsTo_table (by decide) fun t ht => ?_
  obtain ⟨hkind, hescape⟩ := h t ht
  rw [Token.line_of_legal hkind true]
  exact stripsTo_self (Token.not_mem_line (by decide) hescape)

/-- Behind legal tokens the line of an illegal one loses three blanks with its colors. -/
lemma tokenTable_of_illegal {body : List Token} {t : Token} {rest : List Char}
    (hbody : ∀ u ∈ body, u.kind ≠ .illegal ∧ '\x1b' ∉ u.literal.toList) (h : t.kind = .illegal)
    (hrest : Unreadable rest t.literal) (hescape : '\x1b' ∉ t.literal.toList) :
    ∃ start, (tokenTable false (body ++ [t])).toList =
        start ++ "illegal    ".toList ++ t.literal.toList ++ ['\n'] ∧
      withoutCodes (tokenTable true (body ++ [t])).toList =
        start ++ "illegal ".toList ++ t.literal.toList ++ ['\n'] := by
  have hcell : padRight 10 (Style.red.paintIf false "illegal".toList) ++ [' '] =
      "illegal    ".toList := by decide
  refine ⟨(tokenTable false body).toList ++ (padRight 5 (decimal t.position) ++ [' ']), ?_, ?_⟩
  · rw [tokenTable_concat, Token.line_of_illegal h hrest, List.append_assoc _ (padRight 10 _), hcell]
    simp only [List.append_assoc]
  · have hline := Token.stripsTo_line_of_illegal h hrest hescape
    rw [tokenTable_concat,
      ((stripsTo_tokenTable hbody).append (stripsTo_line hline)).withoutCodes_eq]
    simp only [List.append_assoc]

lemma longestReading_tokenize (text : String) :
    LongestReading [] text.toList (tokenize text).toList :=
  (Cursor.start text).longestReading_line [] rfl

/-- Only the last token of a text can be illegal, and then its literal says what is wrong. -/
lemma tokenize_illegal {text : String} {t : Token} (ht : t ∈ (tokenize text).toList)
    (h : t.kind = .illegal) :
    t = (tokenize text).last ∧ ∃ rest, Unreadable rest t.literal := by
  constructor
  · rcases List.mem_append.mp ht with hmem | hmem
    · exact absurd (TokenKind.isFinal_iff.mpr (.inl h)) (Cursor.body_not_isFinal hmem)
    · exact List.mem_singleton.mp hmem
  · rcases (longestReading_tokenize text).token_cases ht with
      hend | ⟨w, -, hspelling⟩ | ⟨-, rest, -, hunreadable⟩
    · exact absurd (h.symm.trans (congrArg Symbol.kind hend)) (by decide)
    · exact absurd (TokenKind.isFinal_iff.mpr (.inl h)) hspelling.not_isFinal
    · exact ⟨rest, hunreadable⟩

/-- If all tokens of a text without escape characters are legal, the colored table without its codes is
the plain table. Else the last token is illegal, and the colored table without its codes lacks the
three blanks with which the plain one fills up the name of this token. -/
theorem colored_tokens_without_codes (text : String) (htext : '\x1b' ∉ text.toList) :
    let tokens := (tokenize text).toList
    let plain := (tokenTable false tokens).toList
    let stripped := withoutCodes (tokenTable true tokens).toList
    ((∀ t ∈ tokens, t.kind ≠ .illegal) → stripped = plain) ∧
    ∀ t ∈ tokens, t.kind = .illegal →
      ∃ start, plain = start ++ "illegal    ".toList ++ t.literal.toList ++ ['\n'] ∧
        stripped = start ++ "illegal ".toList ++ t.literal.toList ++ ['\n'] := by
  intro tokens plain stripped
  have hescape : ∀ t ∈ tokens, '\x1b' ∉ t.literal.toList := fun t ht =>
    (longestReading_tokenize text).not_mem_literal (by decide) htext ht
  constructor
  · intro hlegal
    exact (stripsTo_tokenTable fun t ht => ⟨hlegal t ht, hescape t ht⟩).withoutCodes_eq
  · intro t ht hillegal
    obtain ⟨rfl, rest, hrest⟩ := tokenize_illegal ht hillegal
    have hbody : ∀ u ∈ (tokenize text).body, u.kind ≠ .illegal ∧ '\x1b' ∉ u.literal.toList :=
      fun u hu => ⟨fun hu' => Cursor.body_not_isFinal hu (TokenKind.isFinal_iff.mpr (.inl hu')),
        hescape u (List.mem_append_left _ hu)⟩
    exact tokenTable_of_illegal hbody hillegal hrest (hescape _ ht)

/-- The blank at the end of a literal is left out of both tables, and a character that begins no token
makes the difference. -/
theorem colored_tokens_of_padded_text :
    let legal := tokenize "tag = 'é '"
    let illegal := tokenize "tag ~"
    ('\x1b' ∉ "tag = 'é '".toList ∧ ∀ t ∈ legal.toList, t.kind ≠ .illegal) ∧
      withoutCodes (tokenTable true legal.toList).toList =
        (tokenTable false legal.toList).toList ∧
      '\x1b' ∉ "tag ~".toList ∧ ∃ t ∈ illegal.toList, t.kind = .illegal ∧
        ∃ start, (tokenTable false illegal.toList).toList =
            start ++ "illegal    ".toList ++ t.literal.toList ++ ['\n'] ∧
          withoutCodes (tokenTable true illegal.toList).toList =
            start ++ "illegal ".toList ++ t.literal.toList ++ ['\n'] := by
  intro legal illegal
  have hescape : '\x1b' ∉ "tag = 'é '".toList := by decide
  have hescape' : '\x1b' ∉ "tag ~".toList := by decide
  have hlegal : ∀ t ∈ legal.toList, t.kind ≠ .illegal := by decide +kernel
  have hillegal : illegal.last.kind = .illegal := by decide +kernel
  have hlast : illegal.last ∈ illegal.toList := List.mem_append_right _ List.mem_cons_self
  exact ⟨⟨hescape, hlegal⟩, (colored_tokens_without_codes _ hescape).1 hlegal, hescape',
    illegal.last, hlast, hillegal,
    (colored_tokens_without_codes _ hescape').2 _ hlast hillegal⟩

/-- A red name moves the literal behind it three columns to the left. -/
theorem red_name_moves_literal :
    withoutCodes (tokenTable true (tokenize "~").toList).toList ≠
      (tokenTable false (tokenize "~").toList).toList := by
  decide +kernel

end AlbumCatalog
