import AlbumCatalog.Proofs.Compile
import Mathlib.Order.Bounds.Defs

/-!
# Where a text stops being a filter

The place that a parse error points at is that of the first token with which the kinds read so far
begin no sentence. What may come next is decided by the kinds alone, and every state of the grammar
can be completed, so the text before that place can always be continued to a filter.
-/

namespace AlbumCatalog

/-- The kinds of a chain of comparisons, and the end. -/
def Sentence (kinds : List TokenKind) : Prop :=
  ∃ c : Chain, kinds = c.symbols.map Symbol.kind ++ [.endOfLine]

def Viable (kinds : List TokenKind) : Prop :=
  ∃ more, Sentence (kinds ++ more)

/-- What a place in the grammar waits for. -/
inductive Expectation
  | field
  | operator
  | value
  | item
  | separator
  | combinator
  deriving DecidableEq, Repr

namespace Expectation

/-- The kinds that may come. -/
def admitted : Expectation → List TokenKind
  | field => [.field]
  | operator => [.eq, .ne, .lt, .le, .gt, .ge, .like, .oneOf]
  | value => [.string, .leftBracket]
  | item => [.string]
  | separator => [.comma, .rightBracket]
  | combinator => [.and, .or, .endOfLine]

/-- What is said of a token of another kind. -/
def refusal (found : TokenKind) : Expectation → String
  | field => "expected variable instead of " ++ found.name
  | operator => "expected operator instead of " ++ found.name
  | value => "expected string instead of " ++ found.name
  | item => "expected string instead of " ++ found.name
  | separator => "expected ',' or ']' instead of " ++ found.name
  | combinator => "unexpected expression after comparison: " ++ found.name

end Expectation

def Awaiting.expectation : Awaiting → Expectation
  | field _ => .field
  | operator .. => .operator
  | value .. => .value
  | item .. => .item
  | separator .. => .separator
  | combinator _ => .combinator

lemma Awaiting.refuse_message (s : Awaiting) (t : Token) :
    (s.refuse t).message =
      if t.kind = .illegal then t.literal else s.expectation.refusal t.kind := by
  unfold refuse ParseError.message
  split
  · rfl
  · cases s <;> rfl

/-! ### What may come next -/

lemma Expectation.mem_admitted_operator {k : TokenKind} :
    k ∈ operator.admitted ↔ k.isComparison := by
  cases k <;> simp [admitted, TokenKind.isComparison]

lemma Expectation.mem_admitted_combinator {k : TokenKind} :
    k ∈ combinator.admitted ↔ k.isCombinator ∨ k = .endOfLine := by
  cases k <;> simp [admitted, TokenKind.isCombinator]

lemma Advances.admitted {s s' : Awaiting} {x : Symbol} (h : Advances s x s') :
    x.kind ∈ s.expectation.admitted := by
  cases h with
  | operator hop => exact Expectation.mem_admitted_operator.mpr hop
  | join hop => exact Expectation.mem_admitted_combinator.mpr (Or.inl hop)
  | _ => simp [Awaiting.expectation, Expectation.admitted]

lemma Awaiting.exists_advances {s : Awaiting} {x : Symbol} (h : x.kind ∈ s.expectation.admitted)
    (hend : x.kind ≠ .endOfLine) : ∃ s', Advances s x s' := by
  obtain ⟨k, literal⟩ := x
  cases s with
  | field before =>
    obtain rfl : k = .field := by simpa [expectation, Expectation.admitted] using h
    exact ⟨_, .field⟩
  | operator before name => exact ⟨_, .operator (Expectation.mem_admitted_operator.mp h)⟩
  | value before name op =>
    have hk : k = .string ∨ k = .leftBracket := by
      simpa [expectation, Expectation.admitted] using h
    rcases hk with rfl | rfl
    · exact ⟨_, .text⟩
    · exact ⟨_, .list⟩
  | item before name op items =>
    obtain rfl : k = .string := by simpa [expectation, Expectation.admitted] using h
    exact ⟨_, .item⟩
  | separator before name op items =>
    have hk : k = .comma ∨ k = .rightBracket := by
      simpa [expectation, Expectation.admitted] using h
    rcases hk with rfl | rfl
    · exact ⟨_, .comma⟩
    · exact ⟨_, .close⟩
  | combinator f =>
    rcases Expectation.mem_admitted_combinator.mp h with hk | hk
    · exact ⟨_, .join hk⟩
    · exact absurd hk hend

lemma Advances.unique {s s₁ s₂ : Awaiting} {x : Symbol} (h₁ : Advances s x s₁)
    (h₂ : Advances s x s₂) : s₁ = s₂ := by
  have h₁ := Awaiting.next_of_advances (t := ⟨0, x.kind, x.literal⟩) h₁
  have h₂ := Awaiting.next_of_advances (t := ⟨0, x.kind, x.literal⟩) h₂
  exact Except.ok.inj (h₁.symm.trans h₂)

lemma Reads.unique {s s₁ s₂ : Awaiting} {xs : List Symbol} (h₁ : Reads s xs s₁)
    (h₂ : Reads s xs s₂) : s₁ = s₂ := by
  induction h₁ with
  | nil =>
    cases h₂
    rfl
  | cons hx hxs ih =>
    cases h₂ with
    | cons hy hys =>
      cases hx.unique hy
      exact ih hys

/-- The kinds decide where the grammar goes. -/
lemma Advances.congr {s s' t : Awaiting} {x y : Symbol} (h : Advances s x s')
    (ht : t.expectation = s.expectation) (hy : y.kind = x.kind) :
    ∃ t', Advances t y t' ∧ t'.expectation = s'.expectation := by
  obtain ⟨k, literal⟩ := y
  subst hy
  cases h with
  | field => cases t <;> cases ht; exact ⟨_, .field, rfl⟩
  | operator hop => cases t <;> cases ht; exact ⟨_, .operator hop, rfl⟩
  | text => cases t <;> cases ht; exact ⟨_, .text, rfl⟩
  | list => cases t <;> cases ht; exact ⟨_, .list, rfl⟩
  | item => cases t <;> cases ht; exact ⟨_, .item, rfl⟩
  | comma => cases t <;> cases ht; exact ⟨_, .comma, rfl⟩
  | close => cases t <;> cases ht; exact ⟨_, .close, rfl⟩
  | join hop => cases t <;> cases ht; exact ⟨_, .join hop, rfl⟩

lemma Reads.congr {s s' t : Awaiting} {xs ys : List Symbol} (h : Reads s xs s')
    (ht : t.expectation = s.expectation) (hys : ys.map Symbol.kind = xs.map Symbol.kind) :
    ∃ t', Reads t ys t' ∧ t'.expectation = s'.expectation := by
  induction h generalizing t ys with
  | nil =>
    cases List.map_eq_nil_iff.mp hys
    exact ⟨t, .nil, ht⟩
  | cons hx hxs ih =>
    obtain ⟨y, ys, rfl, hy, hys⟩ := List.map_eq_cons_iff.mp hys
    obtain ⟨t₁, hadv, ht₁⟩ := hx.congr ht hy
    obtain ⟨t₂, hreads, ht₂⟩ := ih ht₁ hys
    exact ⟨t₂, .cons hadv hreads, ht₂⟩

/-! ### Every state can be completed -/

lemma isFieldName_x : IsFieldName ['x'] := by
  refine ⟨⟨'x', [], rfl, by decide, by simp⟩, ?_⟩
  intro k hk hs
  cases k with
  | and | or | like | oneOf => simp [Spells, TokenKind.name] at hs
  | _ => cases hk

lemma spells_name {k : TokenKind} (hk : k.isKeyword) : Spells k.name.toList k := by
  cases k with
  | and | or | like | oneOf => rfl
  | _ => cases hk

lemma exists_spelling_of_kind {k : TokenKind} (h : ¬ k.isFinal) :
    ∃ x w, x.kind = k ∧ Spelling x w := by
  cases k with
  | illegal | endOfLine => exact absurd rfl h
  | and | or | like | oneOf => exact ⟨_, _, rfl, .keyword rfl (spells_name rfl)⟩
  | eq | ne | lt | le | gt | ge | leftBracket | rightBracket | comma => exact ⟨_, _, rfl, .sign rfl⟩
  | string => exact ⟨_, _, rfl, .string (q := '"') (s := []) rfl (by simp)⟩
  | field => exact ⟨_, _, rfl, .field isFieldName_x⟩

lemma Awaiting.exists_completion (s : Awaiting) :
    ∃ xs f, Reads s xs (.combinator f) ∧ ∀ x ∈ xs, ∃ w, Spelling x w := by
  -- the few symbols with which every state comes to the end of a comparison
  have hfield : ∃ w, Spelling ⟨.field, "x"⟩ w := ⟨_, .field isFieldName_x⟩
  have heq : ∃ w, Spelling ⟨.eq, ""⟩ w := ⟨_, .sign rfl⟩
  have hclose : ∃ w, Spelling ⟨.rightBracket, ""⟩ w := ⟨_, .sign rfl⟩
  have hstring : ∃ w, Spelling ⟨.string, ""⟩ w := ⟨_, .string (q := '"') (s := []) rfl (by simp)⟩
  cases s with
  | field before =>
    exact ⟨[⟨.field, "x"⟩, ⟨.eq, ""⟩, ⟨.string, ""⟩], _,
      .cons .field (.cons (.operator rfl) (.cons .text .nil)), by simp [hfield, heq, hstring]⟩
  | operator before name =>
    exact ⟨[⟨.eq, ""⟩, ⟨.string, ""⟩], _, .cons (.operator rfl) (.cons .text .nil),
      by simp [heq, hstring]⟩
  | value before name op => exact ⟨[⟨.string, ""⟩], _, .cons .text .nil, by simp [hstring]⟩
  | item before name op items =>
    exact ⟨[⟨.string, ""⟩, ⟨.rightBracket, ""⟩], _, .cons .item (.cons .close .nil),
      by simp [hstring, hclose]⟩
  | separator before name op items =>
    exact ⟨[⟨.rightBracket, ""⟩], _, .cons .close .nil, by simp [hclose]⟩
  | combinator f => exact ⟨[], f, .nil, by simp⟩

lemma exists_layout {xs : List Symbol} (h : ∀ x ∈ xs, ∃ w, Spelling x w) (afterWord : Bool) :
    ∃ cs, Layout afterWord xs cs := by
  induction xs generalizing afterWord with
  | nil => exact ⟨[], .blanks (by simp [IsBlanks])⟩
  | cons x xs ih =>
    obtain ⟨w, hw⟩ := h x List.mem_cons_self
    obtain ⟨cs, hcs⟩ := ih (fun y hy => h y (List.mem_cons_of_mem x hy)) x.kind.isWord
    exact ⟨[' '] ++ w ++ cs, .symbol (by simp [IsBlanks, isBlank]) (by simp) hw hcs⟩

lemma Reads.viable {s : Awaiting} {xs : List Symbol} (h : Reads (.field none) xs s)
    (hxs : ∀ x ∈ xs, ∃ w, Spelling x w) : Viable (xs.map Symbol.kind) := by
  obtain ⟨ys, f, hys, hspell⟩ := s.exists_completion
  have hall : ∀ x ∈ xs ++ ys, ∃ w, Spelling x w := by
    intro x hx
    rcases List.mem_append.mp hx with hx | hx
    · exact hxs x hx
    · exact hspell x hx
  obtain ⟨c, -, hc⟩ := (h.append hys).exists_chain hall
  refine ⟨ys.map Symbol.kind ++ [.endOfLine], c, ?_⟩
  rw [← hc, List.map_append, List.append_assoc]

lemma Viable.of_append {ks ks' : List TokenKind} (h : Viable (ks ++ ks')) : Viable ks := by
  obtain ⟨more, h⟩ := h
  exact ⟨ks' ++ more, by rwa [← List.append_assoc]⟩

lemma Expectation.not_mem_admitted_illegal (g : Expectation) : .illegal ∉ g.admitted := by
  cases g <;> simp [admitted]

lemma Awaiting.eq_combinator {s : Awaiting} (h : .endOfLine ∈ s.expectation.admitted) :
    ∃ f, s = .combinator f := by
  cases s with
  | combinator f => exact ⟨f, rfl⟩
  | _ => simp [expectation, Expectation.admitted] at h

lemma Reads.expectation_eq {s t : Awaiting} {xs ys : List Symbol} (h : Reads (.field none) xs s)
    (h' : Reads (.field none) ys t) (hys : ys.map Symbol.kind = xs.map Symbol.kind) :
    t.expectation = s.expectation := by
  obtain ⟨t', ht', heq⟩ := h.congr rfl hys
  rwa [h'.unique ht']

/-- What can come after symbols that were read is what the state admits. -/
lemma Reads.viable_iff {s : Awaiting} {xs : List Symbol} (h : Reads (.field none) xs s)
    (hxs : ∀ x ∈ xs, ∃ w, Spelling x w) (k : TokenKind) :
    Viable (xs.map Symbol.kind ++ [k]) ↔ k ∈ s.expectation.admitted := by
  constructor
  · rintro ⟨more, c, hc⟩
    rcases List.eq_nil_or_concat more with rfl | ⟨more, e, rfl⟩
    · -- the sentence ends with `k`, so a whole chain was read
      rw [List.append_nil] at hc
      obtain ⟨hkinds, hk⟩ := List.append_inj' hc rfl
      rw [h.expectation_eq c.reads hkinds.symm |>.symm, List.singleton_inj.mp hk]
      simp [Awaiting.expectation, Expectation.admitted]
    · -- the sentence goes on, so a chain has `k` at this place
      rw [List.concat_eq_append, ← List.append_assoc] at hc
      obtain ⟨hkinds, -⟩ := List.append_inj' hc rfl
      rw [List.append_assoc, eq_comm] at hkinds
      obtain ⟨ys, zs, hsymbols, hys, hzs⟩ := List.map_eq_append_iff.mp hkinds
      obtain ⟨z, zs, rfl, rfl, -⟩ := List.map_eq_cons_iff.mp hzs
      have hreads := c.reads
      rw [hsymbols] at hreads
      obtain ⟨t, ht, hrest⟩ := hreads.of_append
      rw [← h.expectation_eq ht hys]
      cases hrest with
      | cons hz _ => exact hz.admitted
  · intro hk
    by_cases hend : k = .endOfLine
    · subst hend
      obtain ⟨f, rfl⟩ := Awaiting.eq_combinator hk
      obtain ⟨c, -, rfl⟩ := h.exists_chain hxs
      exact ⟨[], c, by simp⟩
    · have hillegal : k ≠ .illegal := by
        rintro rfl
        exact Expectation.not_mem_admitted_illegal _ hk
      have hfinal : ¬ k.isFinal := by
        rw [TokenKind.isFinal_iff]
        rintro (hk | hk)
        · exact hillegal hk
        · exact hend hk
      obtain ⟨x, w, rfl, hx⟩ := exists_spelling_of_kind hfinal
      obtain ⟨s', hs'⟩ := Awaiting.exists_advances hk hend
      have hall : ∀ y ∈ xs ++ [x], ∃ w, Spelling y w := by
        intro y hy
        rcases List.mem_append.mp hy with hy | hy
        · exact hxs y hy
        · exact ⟨w, by rwa [List.mem_singleton.mp hy]⟩
      have hviable := (h.append (.cons hs' .nil)).viable hall
      rwa [List.map_append] at hviable

/-! ### The token that is refused -/

lemma foldlM_next_eq_error {ts : List Token} {s : Awaiting} {e : ParseError}
    (h : ts.foldlM Awaiting.next s = .error e) :
    ∃ before t after s', ts = before ++ t :: after ∧ Reads s (before.map Token.symbol) s' ∧
      s'.next t = .error e := by
  induction ts generalizing s with
  | nil => cases h
  | cons t ts ih =>
    rw [List.foldlM_cons] at h
    cases hnext : s.next t with
    | error e' =>
      rw [hnext] at h
      cases h
      exact ⟨[], t, ts, s, rfl, .nil, hnext⟩
    | ok s₁ =>
      rw [hnext] at h
      obtain ⟨before, u, after, s', rfl, hreads, hu⟩ := ih h
      exact ⟨t :: before, u, after, s', rfl, .cons (Awaiting.advances_of_next hnext) hreads, hu⟩

lemma Awaiting.not_admitted_of_next {s : Awaiting} {t : Token} {e : ParseError}
    (h : s.next t = .error e) (ht : t.kind ≠ .endOfLine) : t.kind ∉ s.expectation.admitted := by
  intro hk
  obtain ⟨s', hs'⟩ := exists_advances (x := t.symbol) hk ht
  rw [next_of_advances hs'] at h
  cases h

lemma Awaiting.not_admitted_of_finish {s : Awaiting} {t : Token} {e : ParseError}
    (h : s.finish t = .error e) (ht : t.kind.isFinal) : t.kind ∉ s.expectation.admitted := by
  intro hk
  rcases TokenKind.isFinal_iff.mp ht with hkind | hkind
  · rw [hkind] at hk
    exact Expectation.not_mem_admitted_illegal _ hk
  · rw [hkind] at hk
    obtain ⟨f, rfl⟩ := eq_combinator hk
    rw [finish_eq_ok_iff.mpr ⟨rfl, hkind⟩] at h
    cases h

lemma Awaiting.refuse_of_finish {s : Awaiting} {t : Token} {e : ParseError}
    (h : s.finish t = .error e) : e = s.refuse t := by
  unfold finish at h
  split at h <;> cases h
  rfl

/-- A line that is no filter has a first token that is not admitted, and the error is about it. -/
lemma Cursor.ofTokens_line_eq_error {c : Cursor} {e : ParseError}
    (h : Filter.ofTokens c.line = .error e) :
    ∃ before t after s, c.line.toList = before ++ t :: after ∧
      Reads (.field none) (before.map Token.symbol) s ∧
      t.kind ∉ s.expectation.admitted ∧ e = s.refuse t := by
  -- the refused token is one of the body or else the last one, which alone can be final
  cases hbody : c.line.body.foldlM Awaiting.next (.field none) with
  | error e' =>
    simp only [Filter.ofTokens, hbody] at h
    cases h
    obtain ⟨before, t, after, s, hsplit, hreads, hnext⟩ := foldlM_next_eq_error hbody
    have hend : t.kind ≠ .endOfLine := by
      intro hend
      have hmem : t ∈ c.line.body := by simp [hsplit]
      exact body_not_isFinal hmem (by rw [hend]; rfl)
    refine ⟨before, t, after ++ [c.line.last], s, by simp [TokenLine.toList, hsplit], hreads,
      Awaiting.not_admitted_of_next hnext hend, Awaiting.refuse_of_next hnext⟩
  | ok s =>
    simp only [Filter.ofTokens, hbody] at h
    exact ⟨c.line.body, c.line.last, [], s, rfl, foldlM_next_eq_ok_iff.mp hbody,
      Awaiting.not_admitted_of_finish h (c.last_isFinal []), Awaiting.refuse_of_finish h⟩

lemma Layout.exists_continuation {xs : List Symbol} {s : Awaiting} {pre : List Char}
    (h : Layout false xs pre) (hs : Reads (.field none) xs s) :
    ∃ more f, Filter.parse (String.ofList (pre ++ more)) = .ok f := by
  obtain ⟨ys, f, hys, hspell⟩ := s.exists_completion
  obtain ⟨more, hmore⟩ := exists_layout hspell true
  have hlayout := h.append hmore
  obtain ⟨c, -, hc⟩ := (hs.append hys).exists_chain hlayout.exists_spelling
  refine ⟨more, c.filter, parse_of_layout ?_⟩
  rwa [String.toList_ofList, ← hc]

/-- A parse error points at the first token with which the kinds of the tokens begin no sentence. It
has the literal of an illegal token, and else says what the grammar admits in place of the token;
the text before it can be continued to a filter. -/
theorem parse_error_at_first_misfit (text : String) (e : ParseError)
    (h : Filter.parse text = .error e) :
    ∃ (before : List Token) (t : Token) (g : Expectation),
      Cursor.scanTimes (before.length + 1) (Cursor.start text) = before ++ [t] ∧
      IsLeast {k | ¬ Viable ((Cursor.scanTimes (k + 1) (Cursor.start text)).map Token.kind)}
        before.length ∧
      e.position = t.position ∧
      (∀ k, Viable (before.map Token.kind ++ [k]) ↔ k ∈ g.admitted) ∧
      e.message = (if t.kind = .illegal then t.literal else g.refusal t.kind) ∧
      e.position ≤ text.utf8ByteSize ∧
      ∃ pre post more f, text = pre ++ post ∧ String.utf8ByteSize pre = e.position ∧
        Filter.parse (pre ++ more) = .ok f := by
  obtain ⟨before, t, after, s, hline, hreads, hmisfit, rfl⟩ := Cursor.ofTokens_line_eq_error h
  obtain ⟨pre, post, hsplit, hlayout, ht⟩ := Cursor.line_split hline
  have hkinds : (before.map Token.symbol).map Symbol.kind = before.map Token.kind := by
    simp [Token.symbol]
  have hviable := hreads.viable_iff hlayout.exists_spelling
  have hbefore := hreads.viable hlayout.exists_spelling
  rw [hkinds] at hviable hbefore
  have hscan : ∀ k ≤ before.length,
      Cursor.scanTimes (k + 1) (Cursor.start text) = (before ++ t :: after).take (k + 1) := by
    intro k hk
    rw [← hline]
    apply Cursor.scanTimes_eq_take
    rw [hline, List.length_append, List.length_cons]
    omega
  have hupto : Cursor.scanTimes (before.length + 1) (Cursor.start text) = before ++ [t] := by
    rw [hscan _ le_rfl, List.take_append, List.take_of_length_le (Nat.le_succ _)]
    simp
  have hsize : String.utf8ByteSize (String.ofList pre) = t.position := by
    rw [utf8ByteSize_ofList, ht]
    simp [Cursor.start]
  have htext : text = String.ofList pre ++ String.ofList post := by
    rw [← String.ofList_append, ← hsplit]
    exact String.ofList_toList.symm
  refine ⟨before, t, s.expectation, hupto, ⟨?_, ?_⟩, rfl, hviable, s.refuse_message t, ?_, ?_⟩
  · change ¬ Viable _
    rw [hupto, List.map_append, List.map_singleton, hviable]
    exact hmisfit
  · intro k hk
    by_contra hlt
    rw [Nat.not_le] at hlt
    apply hk
    rw [hscan k hlt.le, List.take_append_of_le_length hlt]
    have hprefix := List.take_append_drop (k + 1) before
    rw [← hprefix, List.map_append] at hbefore
    exact hbefore.of_append
  · rw [htext, String.utf8ByteSize_append, hsize]
    exact Nat.le_add_right _ _
  · obtain ⟨more, f, hf⟩ := hlayout.exists_continuation hreads
    rw [String.ofList_append] at hf
    exact ⟨String.ofList pre, String.ofList post, String.ofList more, f, htext, hsize, hf⟩

/-- After a complete comparison a second name is refused, at its place in bytes. -/
theorem parse_error_at_second_name :
    Filter.parse "name = 'é' name" = .error ⟨12, .afterComparison .field⟩ ∧
      ∃ pre post more f, "name = 'é' name" = pre ++ post ∧ String.utf8ByteSize pre = 12 ∧
        Filter.parse (pre ++ more) = .ok f := by
  have h : Filter.parse "name = 'é' name" = .error ⟨12, .afterComparison .field⟩ := by decide +kernel
  obtain ⟨-, -, -, -, -, -, -, -, -, hpre⟩ := parse_error_at_first_misfit _ _ h
  exact ⟨h, hpre⟩

end AlbumCatalog
