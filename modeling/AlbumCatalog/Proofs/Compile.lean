import AlbumCatalog.Proofs.Chain
import AlbumCatalog.Proofs.Scanning

/-!
# The texts that are filters

A text is a filter exactly when it lays out a chain of comparisons, and the tree is that of the
chain. One direction reads the symbols of a chain; for the other an invariant says which symbols a
state of the grammar has behind it.
-/

namespace AlbumCatalog

/-- The symbols of a chain and of the combinator behind it, or nothing. -/
def Joined.Holds : Joined → List Symbol → Prop
  | none, xs => xs = []
  | some (f, op), xs => op.isCombinator ∧ ∃ c : Chain, f = c.filter ∧ xs = c.symbols ++ [⟨op, ""⟩]

/-- The symbols of a comparison whose right side has only come as far as `tail`. -/
def Begun (before : Joined) (name : String) (op : TokenKind) (tail xs : List Symbol) : Prop :=
  IsFieldName name.toList ∧ op.isComparison ∧
    ∃ ys, before.Holds ys ∧ xs = ys ++ ⟨.field, name⟩ :: ⟨op, ""⟩ :: tail

/-- The symbols that have been read when a state is reached. -/
def Awaiting.Holds : Awaiting → List Symbol → Prop
  | .field before, xs => before.Holds xs
  | .operator before name, xs =>
    IsFieldName name.toList ∧ ∃ ys, before.Holds ys ∧ xs = ys ++ [⟨.field, name⟩]
  | .value before name op, xs => Begun before name op [] xs
  | .item before name op items, xs =>
    items = [] ∧ Begun before name op [⟨.leftBracket, ""⟩] xs ∨
      ∃ first more, items.reverse = first :: more ∧
        Begun before name op
          (⟨.leftBracket, ""⟩ :: Comparand.itemSymbols first more ++ [⟨.comma, ""⟩]) xs
  | .separator before name op items, xs =>
    ∃ first more, items.reverse = first :: more ∧
      Begun before name op (⟨.leftBracket, ""⟩ :: Comparand.itemSymbols first more) xs
  | .combinator f, xs => ∃ c : Chain, f = c.filter ∧ xs = c.symbols

lemma Begun.append {before : Joined} {name : String} {op : TokenKind} {tail xs : List Symbol}
    (h : Begun before name op tail xs) (zs : List Symbol) :
    Begun before name op (tail ++ zs) (xs ++ zs) := by
  obtain ⟨hname, hop, ys, hys, rfl⟩ := h
  exact ⟨hname, hop, ys, hys, by simp⟩

lemma Begun.close {before : Joined} {name : String} {op : TokenKind} {v : Comparand}
    {xs : List Symbol} (h : Begun before name op v.symbols xs) :
    ∃ c : Chain, before.close ⟨.field name, op, v.expr⟩ = c.filter ∧ xs = c.symbols := by
  obtain ⟨hname, hop, ys, hys, rfl⟩ := h
  let comparison : Comparison := ⟨name, op, v, hname, hop⟩
  cases before with
  | none =>
    refine ⟨⟨comparison, []⟩, rfl, ?_⟩
    rw [show ys = [] from hys]
    simp [Chain.symbols, Comparison.symbols, comparison]
  | some p =>
    obtain ⟨hcomb, c, hf, rfl⟩ := hys
    let link : Link := ⟨p.2, comparison, hcomb⟩
    refine ⟨c.snoc link, ?_, ?_⟩
    · rw [Chain.filter_snoc, ← hf]
      rfl
    · rw [Chain.symbols_snoc]
      simp [Link.symbols, Comparison.symbols, link, comparison]

lemma Advances.holds {s s' : Awaiting} {x : Symbol} {xs : List Symbol} (h : Advances s x s')
    (hx : ∃ w, Spelling x w) (hs : s.Holds xs) : s'.Holds (xs ++ [x]) := by
  obtain ⟨w, hx⟩ := hx
  -- a sign or a keyword has no literal, so it is the very symbol that a chain has at its place
  cases h with
  | field => exact ⟨hx.isFieldName rfl, xs, hs, rfl⟩
  | @operator before name literal op hop =>
    obtain ⟨hname, ys, hys, rfl⟩ := hs
    have hliteral : literal = "" :=
      hx.literal_eq (by rintro rfl; cases hop) (by rintro rfl; cases hop)
    exact ⟨hname, hop, ys, hys, by simp [hliteral]⟩
  | @text before name value op =>
    exact (hs.append [⟨.string, value⟩]).close (v := .text value)
  | @list before name literal op =>
    have hliteral : literal = "" := hx.literal_eq (by simp) (by simp)
    subst hliteral
    exact Or.inl ⟨rfl, hs.append [⟨.leftBracket, ""⟩]⟩
  | @item before name value op items =>
    rcases hs with ⟨rfl, hs⟩ | ⟨first, more, hitems, hs⟩
    · exact ⟨value, [], rfl, hs.append [⟨.string, value⟩]⟩
    · refine ⟨first, more ++ [value], by simp [hitems], ?_⟩
      rw [Comparand.itemSymbols_snoc]
      simpa using hs.append [⟨.string, value⟩]
  | @comma before name literal op items =>
    have hliteral : literal = "" := hx.literal_eq (by simp) (by simp)
    subst hliteral
    obtain ⟨first, more, hitems, hs⟩ := hs
    exact Or.inr ⟨first, more, hitems, hs.append [⟨.comma, ""⟩]⟩
  | @close before name literal op items =>
    have hliteral : literal = "" := hx.literal_eq (by simp) (by simp)
    subst hliteral
    obtain ⟨first, more, hitems, hs⟩ := hs
    have hclose := (hs.append [⟨.rightBracket, ""⟩]).close (v := .list first more)
    rwa [Comparand.expr, ← hitems] at hclose
  | @join f literal op hop =>
    have hliteral : literal = "" :=
      hx.literal_eq (by rintro rfl; cases hop) (by rintro rfl; cases hop)
    obtain ⟨c, rfl, rfl⟩ := hs
    exact ⟨hop, c, rfl, by rw [hliteral]⟩

lemma Reads.holds {s s' : Awaiting} {xs ys : List Symbol} (h : Reads s ys s')
    (hys : ∀ y ∈ ys, ∃ w, Spelling y w) (hs : s.Holds xs) : s'.Holds (xs ++ ys) := by
  induction h generalizing xs with
  | nil => rwa [List.append_nil]
  | @cons _ _ _ y ys hy hys' ih =>
    have hstep := hy.holds (hys y List.mem_cons_self) hs
    have hrest := ih (fun z hz => hys z (List.mem_cons_of_mem y hz)) hstep
    rwa [List.append_assoc, List.singleton_append] at hrest

lemma Reads.exists_chain {xs : List Symbol} {f : Filter}
    (h : Reads (.field none) xs (.combinator f)) (hxs : ∀ x ∈ xs, ∃ w, Spelling x w) :
    ∃ c : Chain, f = c.filter ∧ xs = c.symbols := by
  have hstart : (Awaiting.field none).Holds [] := rfl
  exact h.holds hxs hstart

/-- In what can be read, the operator of a comparison stands before a string or a bracket. -/
lemma Reads.signsApart {s s' : Awaiting} {xs : List Symbol} (h : Reads s xs s') :
    SignsApart xs := by
  induction h with
  | nil => exact .nil
  | @cons _ _ _ x xs hx hxs ih =>
    cases hxs with
    | nil => exact .singleton x
    | cons hy hys =>
      refine List.isChain_cons_cons.mpr ⟨?_, ih⟩
      intro hsign heq
      -- after an order sign comes a string or a bracket, never an equals sign
      cases hx with
      | operator hop => cases hy <;> cases heq
      | join hop => rcases hsign with rfl | rfl <;> cases hop
      | _ => simp at hsign

/-! ### From text to tree -/

lemma Awaiting.finish_eq_ok_iff {s : Awaiting} {t : Token} {f : Filter} :
    s.finish t = .ok f ↔ s = .combinator f ∧ t.kind = .endOfLine := by
  constructor
  · intro h
    unfold finish at h
    split at h
    · rename_i hkind
      cases h
      exact ⟨rfl, hkind⟩
    · cases h
  · rintro ⟨rfl, hkind⟩
    simp [finish, hkind]

lemma Filter.ofTokens_eq_ok_iff {l : TokenLine} {f : Filter} :
    Filter.ofTokens l = .ok f ↔
      Reads (.field none) (l.body.map Token.symbol) (.combinator f) ∧ l.last.kind = .endOfLine := by
  rw [← foldlM_next_eq_ok_iff, Filter.ofTokens]
  cases hbody : l.body.foldlM Awaiting.next (.field none) with
  | error e =>
    constructor
    · intro h
      cases h
    · rintro ⟨h, -⟩
      cases h
  | ok s =>
    change s.finish l.last = .ok f ↔ _
    rw [Awaiting.finish_eq_ok_iff, Except.ok.injEq]

lemma layout_of_parse {text : String} {f : Filter} (h : Filter.parse text = .ok f) :
    ∃ c : Chain, f = c.filter ∧ Layout false c.symbols text.toList := by
  obtain ⟨hreads, hlast⟩ := Filter.ofTokens_eq_ok_iff.mp h
  have hlayout : Layout false ((tokenize text).body.map Token.symbol) text.toList :=
    Cursor.layout_of_last hlast
  obtain ⟨c, hf, hsymbols⟩ := hreads.exists_chain hlayout.exists_spelling
  exact ⟨c, hf, hsymbols ▸ hlayout⟩

lemma parse_of_layout {text : String} {c : Chain} (h : Layout false c.symbols text.toList) :
    Filter.parse text = .ok c.filter := by
  obtain ⟨hbody, hlast⟩ := h.line c.reads.signsApart 0
  refine Filter.ofTokens_eq_ok_iff.mpr ⟨?_, hlast⟩
  have hreads := c.reads
  rwa [← hbody] at hreads

/-- A text is read as a filter exactly when it lays out a chain of comparisons joined by `and` and
`or`, and the filter is the tree of the chain, which leans to the left. -/
theorem parse_eq_ok_iff_layout (text : String) (f : Filter) :
    Filter.parse text = .ok f ↔
      ∃ c : Chain, f = c.filter ∧ Layout false c.symbols text.toList := by
  constructor
  · exact layout_of_parse
  · rintro ⟨c, rfl, hlayout⟩
    exact parse_of_layout hlayout

example : Filter.parse "name='a' OR tag != \"b\"and owner in ['c','d']" =
    .ok ⟨.binary (.binary (.field "name") .eq (.text "a")) .or (.binary (.field "tag") .ne (.text "b")),
      .and, .binary (.field "owner") .oneOf (.list ["c", "d"])⟩ := by
  decide +kernel

end AlbumCatalog
