import AlbumCatalog.Proofs.Faults
import AlbumCatalog.Proofs.ParseFault

/-!
# Joining two filters by a combinator

A text that is a filter, a combinator and any further text are read as one: the scanner takes the
tokens of each part, those of the last one moved by the bytes before it, and the grammar waits
behind the combinator for what it waits for at the start. So the second part is accepted or refused
as if it stood alone.
-/

namespace AlbumCatalog

/-- The token so many bytes further on. -/
def Token.shift (n : Nat) (t : Token) : Token :=
  { t with position := n + t.position }

def TokenLine.shift (n : Nat) (l : TokenLine) : TokenLine :=
  ⟨l.body.map (Token.shift n), l.last.shift n⟩

def ParseError.shift (n : Nat) (e : ParseError) : ParseError :=
  { e with position := n + e.position }

/-! ### Scanning behind other text -/

lemma Cursor.scan_shift (n m : Nat) (cs : List Char) :
    scan ⟨n + m, cs⟩ = ((scan ⟨m, cs⟩).1.shift n,
      ⟨n + (scan ⟨m, cs⟩).2.offset, (scan ⟨m, cs⟩).2.rest⟩) := by
  simp only [scan, Token.shift, Nat.add_assoc]

lemma Cursor.line_shift (n : Nat) (c : Cursor) :
    line ⟨n + c.offset, c.rest⟩ = c.line.shift n := by
  induction hlen : c.rest.length using Nat.strong_induction_on generalizing c with
  | _ len ih =>
    have hscan := scan_shift n c.offset c.rest
    by_cases hfinal : c.scan.1.kind.isFinal
    · rw [line_of_final hfinal, line_of_final (by rw [hscan]; exact hfinal), hscan]
      rfl
    · have hshorter : c.scan.2.rest.length < c.rest.length := by
        apply scan_rest_length_lt
        intro hend
        exact hfinal (by rw [hend]; rfl)
      have hrest := ih _ (hlen ▸ hshorter) c.scan.2 rfl
      rw [line_of_not_final hfinal, line_of_not_final (by rw [hscan]; exact hfinal), hscan, hrest]
      rfl

lemma Cursor.line_congr {c d : Cursor} (h : c.scan = d.scan) : c.line = d.line := by
  by_cases hfinal : d.scan.1.kind.isFinal
  · rw [line_of_final hfinal, line_of_final (h ▸ hfinal), h]
  · rw [line_of_not_final hfinal, line_of_not_final (c := c) (h ▸ hfinal), h]

lemma Cursor.line_blanks {b : List Char} (hb : IsBlanks b) (n : Nat) (cs : List Char) :
    line ⟨n, b ++ cs⟩ = line ⟨n + byteLength b, cs⟩ := by
  apply line_congr
  simp only [scan, List.takeWhile_append_of_pos hb, List.dropWhile_append_of_pos hb,
    byteLength_append, Nat.add_assoc]

lemma Ends.append {x : Symbol} {rest ds : List Char} (h : Ends x rest)
    (hds : ∀ d ∈ ds.head?, isBlank d) : Ends x (rest ++ ds) := by
  cases rest with
  | cons c rest => exact h
  | nil =>
    refine ⟨?_, ?_⟩
    · intro _ d hd
      by_contra hword
      have hblank := hds d hd
      rw [not_isBlank_of_isWordChar (by simpa using hword)] at hblank
      cases hblank
    · intro _ hd
      exact absurd (hds '=' hd) (by decide)

/-- The symbols of a layout are scanned first, whatever stands behind it after a blank. -/
lemma Layout.line_append {v : Bool} {xs : List Symbol} {cs ds : List Char} (h : Layout v xs cs)
    (hxs : SignsApart xs) (hds : ∀ d ∈ ds.head?, isBlank d) (n : Nat) :
    ∃ ts, ts.map Token.symbol = xs ∧ (Cursor.mk n (cs ++ ds)).line =
      ⟨ts ++ (Cursor.mk (n + byteLength cs) ds).line.body,
        (Cursor.mk (n + byteLength cs) ds).line.last⟩ := by
  induction h generalizing n with
  | blanks hb => exact ⟨[], rfl, Cursor.line_blanks hb n ds⟩
  | @symbol _ b w rest x xs hb hgap hx hrest ih =>
    have hscan := Cursor.scan_of_spelling (n := n) hb hx ((hrest.ends hxs).append hds)
    rw [← List.append_assoc] at hscan
    obtain ⟨ts, hts, hline⟩ := ih hxs.tail (n + byteLength b + byteLength w)
    refine ⟨⟨n + byteLength b, x.kind, x.literal⟩ :: ts, by rw [List.map_cons, hts]; rfl, ?_⟩
    rw [Cursor.line_of_not_final (by rw [hscan]; exact hx.not_isFinal), hscan, hline]
    simp only [byteLength_append, Nat.add_assoc, List.cons_append]

/-! ### Reading on from another place in the grammar -/

lemma Awaiting.refusal_congr {s t : Awaiting} (h : t.expectation = s.expectation)
    (k : TokenKind) : t.refusal k = s.refusal k := by
  cases s <;> cases t <;> first | rfl | cases h

lemma Awaiting.refuse_shift {s t : Awaiting} (h : t.expectation = s.expectation) (n : Nat)
    (x : Token) : t.refuse (x.shift n) = (s.refuse x).shift n := by
  simp only [refuse, ParseError.shift, Token.shift, refusal_congr h]

/-- A token that one state refuses is refused by every state that waits for the same. -/
lemma Awaiting.next_shift_of_error {s t : Awaiting} (h : t.expectation = s.expectation) (n : Nat)
    {x : Token} {e : ParseError} (hx : s.next x = .error e) :
    t.next (x.shift n) = .error (e.shift n) := by
  cases hnext : t.next (x.shift n) with
  | error e' => rw [refuse_of_next hnext, refuse_of_next hx, refuse_shift h]
  | ok t' =>
    obtain ⟨s', hs', -⟩ := (advances_of_next hnext).congr (y := x.symbol) h.symm rfl
    rw [next_of_advances hs'] at hx
    cases hx

lemma Awaiting.next_shift_of_ok {s t s' : Awaiting} (h : t.expectation = s.expectation) (n : Nat)
    {x : Token} (hx : s.next x = .ok s') :
    ∃ t', t.next (x.shift n) = .ok t' ∧ t'.expectation = s'.expectation := by
  obtain ⟨t', ht', heq⟩ := (advances_of_next hx).congr (y := x.symbol) h rfl
  exact ⟨t', next_of_advances ht', heq⟩

lemma Awaiting.finish_shift_of_error {s t : Awaiting} (h : t.expectation = s.expectation) (n : Nat)
    {x : Token} {e : ParseError} (hx : s.finish x = .error e) :
    t.finish (x.shift n) = .error (e.shift n) := by
  cases hfinish : t.finish (x.shift n) with
  | error e' => rw [refuse_of_finish hfinish, refuse_of_finish hx, refuse_shift h]
  | ok f =>
    obtain ⟨rfl, hend⟩ := finish_eq_ok_iff.mp hfinish
    cases s with
    | combinator g =>
      have hok : (combinator g).finish x = .ok g := finish_eq_ok_iff.mpr ⟨rfl, hend⟩
      rw [hok] at hx
      cases hx
    | _ => cases h

/-- Reads a line from a state of the grammar on. -/
def Awaiting.readLine (s : Awaiting) (l : TokenLine) : Except ParseError Filter := do
  let s ← l.body.foldlM next s
  s.finish l.last

/-- A line that is refused from one state on is refused from every state that waits for the same,
at the same token. -/
lemma Awaiting.readLine_shift {s t : Awaiting} (h : t.expectation = s.expectation) (n : Nat)
    {l : TokenLine} {e : ParseError} (hl : s.readLine l = .error e) :
    t.readLine (l.shift n) = .error (e.shift n) := by
  obtain ⟨body, last⟩ := l
  simp only [readLine, TokenLine.shift] at hl ⊢
  induction body generalizing s t with
  | nil => exact finish_shift_of_error h n hl
  | cons x body ih =>
    rw [List.foldlM_cons] at hl
    rw [List.map_cons, List.foldlM_cons]
    cases hx : s.next x with
    | error e' =>
      rw [hx] at hl
      cases hl
      rw [next_shift_of_error h n hx]
      rfl
    | ok s' =>
      rw [hx] at hl
      obtain ⟨t', ht', heq⟩ := next_shift_of_ok h n hx
      rw [ht']
      exact ih heq hl

lemma Filter.ofTokens_append {ts body : List Token} {last : Token} {s : Awaiting}
    (h : Reads (.field none) (ts.map Token.symbol) s) :
    Filter.ofTokens ⟨ts ++ body, last⟩ = s.readLine ⟨body, last⟩ := by
  simp only [Filter.ofTokens, Awaiting.readLine, List.foldlM_append, foldlM_next_eq_ok_iff.mpr h]
  rfl

/-! ### The joined text -/

lemma layout_combinator {k : TokenKind} {w : List Char} (hk : k.isCombinator) (hw : Spells w k) :
    Layout true [⟨k, ""⟩] ([' '] ++ w) := by
  have hkeyword : k.isKeyword := by
    rcases TokenKind.isCombinator_iff.mp hk with rfl | rfl <;> rfl
  have h : Layout true [⟨k, ""⟩] ([' '] ++ w ++ []) :=
    .symbol isBlank_space (by simp) (.keyword hkeyword hw) (.blanks (by simp [IsBlanks]))
  rwa [List.append_nil] at h

/-- The comparison of a link is answered after those before it. -/
def Link.answer (a : Album) (before : Bool) (l : Link) : Except EvalError Bool :=
  combine l.op before <$> l.comparison.filter.matches a

def Chain.linksBehind (k : TokenKind) (hk : k.isCombinator) (c : Chain) : List Link :=
  ⟨k, c.first, hk⟩ :: c.links

def Chain.join (c : Chain) (k : TokenKind) (hk : k.isCombinator) (d : Chain) : Chain :=
  ⟨c.first, c.links ++ d.linksBehind k hk⟩

lemma Chain.filter_join (c d : Chain) {k : TokenKind} (hk : k.isCombinator) :
    (c.join k hk d).filter = (d.linksBehind k hk).foldl Link.join c.filter := by
  simp [filter, join]

lemma Chain.symbols_join (c d : Chain) {k : TokenKind} (hk : k.isCombinator) :
    (c.join k hk d).symbols = c.symbols ++ [⟨k, ""⟩] ++ d.symbols := by
  simp [symbols, join, linksBehind, Link.symbols]

lemma parse_join_of_ok {a op b : String} {c d : Chain} {k : TokenKind} (hk : k.isCombinator)
    (hop : Spells op.toList k) (ha : Layout false c.symbols a.toList)
    (hb : Layout false d.symbols b.toList) :
    Filter.parse (a ++ " " ++ op ++ " " ++ b) = .ok (c.join k hk d).filter := by
  apply parse_of_layout
  rw [Chain.symbols_join]
  have hbefore := ha.append (layout_combinator hk hop)
  have hbehind : Layout true d.symbols ([' '] ++ b.toList) :=
    hb.blanks_append isBlank_space (by simp)
  simpa using hbefore.append hbehind

lemma parse_join_of_error {a op b : String} {c : Chain} {k : TokenKind} {e : ParseError}
    (hk : k.isCombinator) (hop : Spells op.toList k) (ha : Layout false c.symbols a.toList)
    (hb : Filter.parse b = .error e) :
    Filter.parse (a ++ " " ++ op ++ " " ++ b) =
      .error (e.shift (a.utf8ByteSize + op.utf8ByteSize + 2)) := by
  let s := Awaiting.field (some (c.filter, k))
  have hreads : Reads (.field none) (c.symbols ++ [⟨k, ""⟩]) s :=
    c.reads.append (.cons (.join hk) .nil)
  have hlayout := ha.append (layout_combinator hk hop)
  have hspaced : ∀ d ∈ (' ' :: b.toList).head?, isBlank d := by simp [isBlank]
  obtain ⟨ts, hts, hline⟩ := hlayout.line_append hreads.signsApart hspaced 0
  have hsize : 0 + byteLength (a.toList ++ ([' '] ++ op.toList)) + byteLength [' '] =
      a.utf8ByteSize + op.utf8ByteSize + 2 := by
    have hspace : byteLength [' '] = 1 := rfl
    have htext : ∀ t : String, byteLength t.toList = t.utf8ByteSize := by
      intro t
      rw [← utf8ByteSize_ofList, String.ofList_toList]
    simp only [byteLength_append, htext, hspace]
    omega
  have hbehind : (Cursor.mk (0 + byteLength (a.toList ++ ([' '] ++ op.toList)))
      (' ' :: b.toList)).line = (tokenize b).shift (a.utf8ByteSize + op.utf8ByteSize + 2) := by
    have hblank := Cursor.line_blanks isBlank_space
      (0 + byteLength (a.toList ++ ([' '] ++ op.toList))) b.toList
    rw [hsize] at hblank
    exact hblank.trans (Cursor.line_shift _ (Cursor.start b))
  rw [hbehind] at hline
  have htext : (a ++ " " ++ op ++ " " ++ b).toList =
      a.toList ++ ([' '] ++ op.toList) ++ ' ' :: b.toList := by
    simp
  have hstart : (Awaiting.field none).readLine (tokenize b) = .error e := hb
  rw [Filter.parse, tokenize, Cursor.start, htext]
  change Filter.ofTokens (Cursor.line _) = _
  rw [hline, Filter.ofTokens_append (hts ▸ hreads)]
  have hsame : s.expectation = (Awaiting.field none).expectation := rfl
  exact Awaiting.readLine_shift hsame _ hstart

/-! ### Evaluation -/

lemma Link.matches_join (a : Album) (f : Filter) (l : Link) :
    (l.join f).matches a = f.matches a >>= fun before => l.answer a before := by
  simp only [answer, Filter.matches_eq_meaning]
  rw [join, Filter.toExpr, Expr.meaning, if_pos l.isCombinator]
  cases f.toExpr.meaning a with
  | error e => rfl
  | ok before => cases l.comparison.filter.toExpr.meaning a <;> rfl

lemma matches_foldl_join (a : Album) (f : Filter) (links : List Link) :
    (links.foldl Link.join f).matches a =
      f.matches a >>= fun start => links.foldlM (Link.answer a) start := by
  induction links generalizing f with
  | nil =>
    rw [List.foldl_nil]
    cases f.matches a <;> rfl
  | cons l links ih =>
    rw [List.foldl_cons, ih, l.matches_join a f]
    simp only [List.foldlM_cons, bind_assoc]

/-- The first fault of a joined tree is that of the first filter, or else that of the second. -/
lemma failure?_matches_foldl_join (a : Album) (f : Filter) (d : Chain) {k : TokenKind}
    (hk : k.isCombinator) :
    failure? (((d.linksBehind k hk).foldl Link.join f).matches a) =
      (failure? (f.matches a)).or (failure? (d.filter.matches a)) := by
  simp only [Filter.matches_eq_meaning, failure?_meaning, faults_foldl_join, Chain.faults_filter,
    Chain.linksBehind, List.flatMap_cons, List.head?_append]

/-- A filter and another text, joined by `and` or `or`, are a filter exactly when the other text is
one. The comparisons of the second filter are then joined to the tree of the first one by one, so
their answers are folded onto that of the first filter, and its error counts before theirs. If the
other text is no filter, its error is that of the joined text, further on by the bytes before it. -/
theorem parse_joined (a op b : String) (fa : Filter) (k : TokenKind)
    (ha : Filter.parse a = .ok fa) (hk : k.isCombinator) (hop : Spells op.toList k) :
    (∀ fb, Filter.parse b = .ok fb →
      ∃ (c : Chain) (f : Filter), fb = c.filter ∧
        f = (⟨k, c.first, hk⟩ :: c.links).foldl Link.join fa ∧
        Filter.parse (a ++ " " ++ op ++ " " ++ b) = .ok f ∧
        ∀ album,
          f.matches album = (do
            let start ← fa.matches album
            (⟨k, c.first, hk⟩ :: c.links).foldlM (Link.answer album) start) ∧
          failure? (f.matches album) = (failure? (fa.matches album)).or
            (failure? (fb.matches album))) ∧
      ∀ e, Filter.parse b = .error e →
        Filter.parse (a ++ " " ++ op ++ " " ++ b) =
          .error ⟨a.utf8ByteSize + op.utf8ByteSize + 2 + e.position, e.problem⟩ := by
  obtain ⟨c, rfl, hc⟩ := layout_of_parse ha
  constructor
  · intro fb hb
    obtain ⟨d, rfl, hd⟩ := layout_of_parse hb
    refine ⟨d, _, rfl, rfl, ?_, ?_⟩
    · rw [parse_join_of_ok hk hop hc hd, Chain.filter_join]
      rfl
    · intro album
      exact ⟨matches_foldl_join album _ _, failure?_matches_foldl_join album _ d hk⟩
  · intro e hb
    exact parse_join_of_error hk hop hc hb

/-- A second filter behind characters of two bytes, and the same one broken off. -/
theorem parse_joined_by_upper_case_or :
    Filter.parse "name='é'" = .ok ⟨.field "name", .eq, .text "é"⟩ ∧
      TokenKind.or.isCombinator ∧ Spells "oR".toList .or ∧
      Filter.parse "tag='ü'" = .ok ⟨.field "tag", .eq, .text "ü"⟩ ∧
      (∃ f, Filter.parse ("name='é'" ++ " " ++ "oR" ++ " " ++ "tag='ü'") = .ok f) ∧
      Filter.parse "tag='ü' and" = .error ⟨12, .expectedField .endOfLine⟩ ∧
      Filter.parse ("name='é'" ++ " " ++ "oR" ++ " " ++ "tag='ü' and") =
        .error ⟨25, .expectedField .endOfLine⟩ := by
  have ha : Filter.parse "name='é'" = .ok ⟨.field "name", .eq, .text "é"⟩ := by decide +kernel
  have hop : "oR".toList.map Char.toLower = TokenKind.or.name.toList := by decide +kernel
  have hb : Filter.parse "tag='ü'" = .ok ⟨.field "tag", .eq, .text "ü"⟩ := by decide +kernel
  have hend : Filter.parse "tag='ü' and" = .error ⟨12, .expectedField .endOfLine⟩ := by
    decide +kernel
  obtain ⟨-, f, -, -, hf, -⟩ := (parse_joined _ _ _ _ _ ha rfl hop).1 _ hb
  exact ⟨ha, rfl, hop, hb, ⟨f, hf⟩, hend, (parse_joined _ _ _ _ _ ha rfl hop).2 _ hend⟩

end AlbumCatalog
