import AlbumCatalog.Proofs.ParseFault
import AlbumCatalog.Proofs.Worklists

/-!
# The symbols in a filter

Reading loses no symbol of a text: those of a chain stand in its tree, in the same order. So two texts
are read as the same filter exactly when they have the same tokens, wherever these stand.
-/

namespace AlbumCatalog

/-- The symbols of an expression from left to right. -/
def Expr.symbols : Expr → List Symbol
  | binary l op r => l.symbols ++ ⟨op, ""⟩ :: r.symbols
  | field name => [⟨.field, name⟩]
  | text value => [⟨.string, value⟩]
  | list items =>
    ⟨.leftBracket, ""⟩ :: (items.map (Symbol.mk .string)).intersperse ⟨.comma, ""⟩ ++
      [⟨.rightBracket, ""⟩]

lemma Comparand.intersperse_eq_itemSymbols (first : String) (more : List String) :
    ((first :: more).map (Symbol.mk .string)).intersperse ⟨.comma, ""⟩ =
      itemSymbols first more := by
  induction more generalizing first with
  | nil => rfl
  | cons item more ih =>
    rw [List.map_cons, List.map_cons, List.intersperse_cons_cons, ← List.map_cons, ih]
    rfl

lemma Comparand.symbols_expr (v : Comparand) : v.expr.symbols = v.symbols := by
  cases v with
  | text value => rfl
  | list first more => rw [expr, Expr.symbols, intersperse_eq_itemSymbols, symbols]

lemma Comparison.symbols_filter (c : Comparison) : c.filter.toExpr.symbols = c.symbols := by
  rw [filter, Filter.toExpr, Expr.symbols, c.comparand.symbols_expr, symbols]
  rfl

lemma symbols_foldl_join (f : Filter) (links : List Link) :
    (links.foldl Link.join f).toExpr.symbols =
      f.toExpr.symbols ++ links.flatMap Link.symbols := by
  induction links generalizing f with
  | nil => simp
  | cons l links ih =>
    have hjoin : (l.join f).toExpr.symbols = f.toExpr.symbols ++ l.symbols := by
      rw [Link.join, Filter.toExpr, Expr.symbols, Comparison.symbols_filter, Link.symbols]
    rw [List.foldl_cons, ih, hjoin, List.flatMap_cons, List.append_assoc]

lemma Chain.symbols_filter (c : Chain) : c.filter.toExpr.symbols = c.symbols := by
  rw [filter, symbols_foldl_join, Comparison.symbols_filter, symbols]

/-- The symbols of a chain decide its tree. -/
lemma Chain.filter_eq_iff {c d : Chain} : c.filter = d.filter ↔ c.symbols = d.symbols := by
  constructor
  · intro h
    rw [← c.symbols_filter, h, d.symbols_filter]
  · intro h
    exact Awaiting.combinator.inj (c.reads.unique (h ▸ d.reads))

/-! ### Texts that are read as filters -/

lemma Cursor.last_symbol {c : Cursor} (h : c.line.last.kind = .endOfLine) :
    c.line.last.symbol = ⟨.endOfLine, ""⟩ := by
  obtain ⟨pre, post, -, -, ht⟩ := line_split c.line_toList_eq
  rw [ht] at h ⊢
  obtain rfl := Lexeme.eq_nil_of_kind h
  rfl

/-- The tokens of a layout are its symbols and the end. -/
lemma Layout.symbols_tokenize {text : String} {c : Chain}
    (h : Layout false c.symbols text.toList) :
    (tokenize text).toList.map Token.symbol = c.symbols ++ [⟨.endOfLine, ""⟩] := by
  obtain ⟨hbody, hlast⟩ := h.line c.reads.signsApart 0
  have hend := Cursor.last_symbol hlast
  rw [TokenLine.toList, List.map_append]
  exact congr (congrArg _ hbody) (congrArg (fun x => [x]) hend)

/-- Two filters are the same for `Filter.same` exactly when they are the same tree, of whatever shape.
Two texts that are read as filters give the same one exactly when they have the same kinds of tokens
with the same literals, and so exactly when both lay out one chain: they differ at most in blanks, in
the letter case of keywords and in the quotes around strings. -/
theorem same_iff_tokens :
    (∀ f g : Filter, f.same g ↔ f = g) ∧
    ∀ (text text' : String) (f g : Filter),
      Filter.parse text = .ok f → Filter.parse text' = .ok g →
        (f.same g ↔
          (tokenize text).toList.map Token.symbol = (tokenize text').toList.map Token.symbol) ∧
        (f.same g ↔
          ∃ c : Chain, Layout false c.symbols text.toList ∧ Layout false c.symbols text'.toList) := by
  refine ⟨fun f g => Filter.same_iff, ?_⟩
  intro text text' f g hf hg
  obtain ⟨c, rfl, hc⟩ := layout_of_parse hf
  obtain ⟨d, rfl, hd⟩ := layout_of_parse hg
  rw [Filter.same_iff, Chain.filter_eq_iff, hc.symbols_tokenize, hd.symbols_tokenize,
    List.append_cancel_right_eq]
  refine ⟨Iff.rfl, ?_⟩
  constructor
  · intro h
    exact ⟨c, hc, h ▸ hd⟩
  · rintro ⟨e, he, he'⟩
    rw [← Chain.filter_eq_iff]
    have hfirst : c.filter = e.filter := Except.ok.inj (hf.symm.trans (parse_of_layout he))
    have hsecond : d.filter = e.filter := Except.ok.inj (hg.symm.trans (parse_of_layout he'))
    rw [hfirst, hsecond]

/-- Other blanks, capitals in keywords and other quotes leave the filter as it is; another blank in a
string does not. -/
theorem spellings_of_one_filter : ∃ f g k,
    Filter.parse "name in ['a', \"it's\"] or tag='x y'" = .ok f ∧
      Filter.parse "name IN[\"a\",\"it's\"]oR tag = \"x y\" " = .ok g ∧
      Filter.parse "name in ['a', \"it's\"] or tag='x  y'" = .ok k ∧ f.same g ∧ ¬ f.same k := by
  let left := Expr.binary (.field "name") .oneOf (.list ["a", "it's"])
  have hf : Filter.parse "name in ['a', \"it's\"] or tag='x y'" =
      .ok ⟨left, .or, .binary (.field "tag") .eq (.text "x y")⟩ := by decide +kernel
  have hg : Filter.parse "name IN[\"a\",\"it's\"]oR tag = \"x y\" " =
      .ok ⟨left, .or, .binary (.field "tag") .eq (.text "x y")⟩ := by decide +kernel
  have hk : Filter.parse "name in ['a', \"it's\"] or tag='x  y'" =
      .ok ⟨left, .or, .binary (.field "tag") .eq (.text "x  y")⟩ := by decide +kernel
  refine ⟨_, _, _, hf, hg, hk, ?_, ?_⟩
  · rw [(same_iff_tokens.2 _ _ _ _ hf hg).1]
    decide +kernel
  · rw [(same_iff_tokens.2 _ _ _ _ hf hk).1]
    decide +kernel

end AlbumCatalog
