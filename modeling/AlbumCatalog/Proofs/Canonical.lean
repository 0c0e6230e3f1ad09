import AlbumCatalog.Proofs.Compile
import AlbumCatalog.Proofs.Evaluation
import AlbumCatalog.Proofs.Rendering

/-!
# What the canonical form tells about a filter

The canonical form of a chain opens all its parentheses first and then writes one comparison behind
another. Each part shows where it ends, so it is read off in one way together with what lies behind
it: parentheses by the quote after them, names and texts by their escapes, operators by the blanks
around them, and items by commas and the bracket, as long as they have neither in them.
-/

namespace AlbumCatalog

/-- The items of all lists of an expression. -/
def Expr.listItems : Expr → List String
  | binary l _ r => l.listItems ++ r.listItems
  | list items => items
  | _ => []

/-- An item that cannot be taken for several, nor for the end of its list. -/
def IsPlainItem (item : String) : Prop :=
  ',' ∉ item.toList ∧ ']' ∉ item.toList

/-- A run of characters with a property ends where the next character has it no more. -/
lemma run_append_injective {p : Char → Bool} {xs ys r s : List Char} (hxs : ∀ c ∈ xs, p c)
    (hys : ∀ c ∈ ys, p c) (hr : ∀ c ∈ r.head?, p c = false) (hs : ∀ c ∈ s.head?, p c = false)
    (h : xs ++ r = ys ++ s) : xs = ys ∧ r = s := by
  have htake := congrArg (List.takeWhile p) h
  rw [takeWhile_append_of_head hxs hr, takeWhile_append_of_head hys hs] at htake
  subst htake
  exact ⟨rfl, List.append_cancel_left h⟩

namespace Expr

/-! ### Names and texts -/

/-- No character is written so that it looks like the closing quote. -/
lemma escapeChar_ne_quote (c : Char) (r u : List Char) : escapeChar c ++ r ≠ '"' :: u := by
  unfold escapeChar
  split
  · simp
  · rename_i hc
    simp only [List.cons_append, List.nil_append, ne_eq, List.cons.injEq, not_and]
    exact fun heq => absurd (Or.inl heq) hc

lemma escapeChar_append_injective {c d : Char} {r u : List Char}
    (h : escapeChar c ++ r = escapeChar d ++ u) : c = d ∧ r = u := by
  unfold escapeChar at h
  split at h
  · split at h
    · simpa using h
    · rename_i hd
      simp only [List.cons_append, List.nil_append, List.cons.injEq] at h
      exact absurd (Or.inr h.1.symm) hd
  · rename_i hc
    split at h
    · simp only [List.cons_append, List.nil_append, List.cons.injEq] at h
      exact absurd (Or.inr h.1) hc
    · simpa using h

lemma escaped_append_injective {s t r u : List Char}
    (h : s.flatMap escapeChar ++ '"' :: r = t.flatMap escapeChar ++ '"' :: u) : s = t ∧ r = u := by
  induction s generalizing t with
  | nil =>
    cases t with
    | nil => exact ⟨rfl, List.tail_eq_of_cons_eq h⟩
    | cons d t =>
      rw [List.flatMap_cons, List.append_assoc] at h
      exact absurd h.symm (escapeChar_ne_quote d _ _)
  | cons c s ih =>
    cases t with
    | nil =>
      rw [List.flatMap_cons, List.append_assoc] at h
      exact absurd h (escapeChar_ne_quote c _ _)
    | cons d t =>
      rw [List.flatMap_cons, List.flatMap_cons, List.append_assoc, List.append_assoc] at h
      obtain ⟨rfl, htail⟩ := escapeChar_append_injective h
      obtain ⟨rfl, hrest⟩ := ih htail
      exact ⟨rfl, hrest⟩

lemma quote_append_injective {s t : String} {r u : List Char}
    (h : (quote s).toList ++ r = (quote t).toList ++ u) : s = t ∧ r = u := by
  simp only [toList_quote, List.cons_append, List.append_assoc, List.nil_append,
    List.cons.injEq, true_and] at h
  obtain ⟨hst, hrest⟩ := escaped_append_injective h
  exact ⟨String.toList_injective hst, hrest⟩

/-! ### Lists -/

/-- What is written behind the first item of a list. -/
def listTail (r : List Char) : List String → List Char
  | [] => ']' :: r
  | item :: more => ',' :: (item.toList ++ listTail r more)

lemma intercalate_eq (first : String) (more : List String) (r : List Char) :
    (",".intercalate (first :: more)).toList ++ ']' :: r = first.toList ++ listTail r more := by
  induction more generalizing first with
  | nil => rw [String.intercalate_singleton, listTail]
  | cons item more ih =>
    rw [String.intercalate_cons_cons, String.toList_append, String.toList_append, List.append_assoc,
      ih, listTail, List.append_assoc]
    rfl

lemma item_append_injective {item item' : String} {more more' : List String} {r u : List Char}
    (hitem : IsPlainItem item) (hitem' : IsPlainItem item')
    (h : item.toList ++ listTail r more = item'.toList ++ listTail u more') :
    item = item' ∧ listTail r more = listTail u more' := by
  have hrun : ∀ item : String, IsPlainItem item →
      ∀ c ∈ item.toList, (c != ',' && c != ']') = true := by
    intro item hitem c hc
    simp only [Bool.and_eq_true, bne_iff_ne]
    exact ⟨fun heq => hitem.1 (heq ▸ hc), fun heq => hitem.2 (heq ▸ hc)⟩
  have hend : ∀ r more, ∀ c ∈ (listTail r more).head?, (c != ',' && c != ']') = false := by
    intro r more c hc
    cases more <;> cases hc <;> rfl
  obtain ⟨heq, htail⟩ :=
    run_append_injective (hrun item hitem) (hrun item' hitem') (hend r more) (hend u more') h
  exact ⟨String.toList_injective heq, htail⟩

lemma listTail_injective {more more' : List String} {r u : List Char}
    (hmore : ∀ item ∈ more, IsPlainItem item) (hmore' : ∀ item ∈ more', IsPlainItem item)
    (h : listTail r more = listTail u more') : more = more' ∧ r = u := by
  induction more generalizing more' with
  | nil =>
    cases more' with
    | nil => exact ⟨rfl, List.tail_eq_of_cons_eq h⟩
    | cons item' more' => simp [listTail] at h
  | cons item more ih =>
    cases more' with
    | nil => simp [listTail] at h
    | cons item' more' =>
      rw [List.forall_mem_cons] at hmore hmore'
      simp only [listTail, List.cons.injEq, true_and] at h
      obtain ⟨rfl, htail⟩ := item_append_injective hmore.1 hmore'.1 h
      obtain ⟨rfl, hrest⟩ := ih hmore.2 hmore'.2 htail
      exact ⟨rfl, hrest⟩

end Expr

open AlbumCatalog.Expr

/-- Texts are known by their quotes and lists by their brackets. -/
lemma Comparand.render_append_injective {v w : Comparand} {r u : List Char}
    (hv : ∀ item ∈ v.expr.listItems, IsPlainItem item)
    (hw : ∀ item ∈ w.expr.listItems, IsPlainItem item)
    (h : v.expr.render.toList ++ r = w.expr.render.toList ++ u) : v.expr = w.expr ∧ r = u := by
  have hlist : ∀ first more (r : List Char), (Comparand.list first more).expr.render.toList ++ r =
      '[' :: (first.toList ++ listTail r more) := by
    intro first more r
    rw [← intercalate_eq, Comparand.expr, Expr.render, String.toList_append, String.toList_append,
      List.append_assoc, List.append_assoc]
    rfl
  have htext : ∀ value (r : List Char), (Comparand.text value).expr.render.toList ++ r =
      '"' :: (value.toList.flatMap escapeChar ++ '"' :: r) := by
    intro value r
    rw [Comparand.expr, Expr.render, toList_quote, List.cons_append, List.append_assoc]
    rfl
  cases v with
  | text value =>
    cases w with
    | text value' =>
      obtain ⟨rfl, hrest⟩ := quote_append_injective (s := value) (t := value') h
      exact ⟨rfl, hrest⟩
    | list first' more' =>
      rw [htext, hlist] at h
      simp at h
  | list first more =>
    cases w with
    | text value' =>
      rw [htext, hlist] at h
      simp at h
    | list first' more' =>
      simp only [Comparand.expr, Expr.listItems, List.forall_mem_cons] at hv hw
      rw [hlist, hlist, List.cons.injEq] at h
      obtain ⟨rfl, htail⟩ := item_append_injective hv.1 hw.1 h.2
      obtain ⟨rfl, hrest⟩ := listTail_injective hv.2 hw.2 htail
      exact ⟨rfl, hrest⟩

/-! ### Operators -/

lemma TokenKind.name_injective : Function.Injective name := by
  have hall : ∀ k ∈ all, ∀ k' ∈ all, k.name = k'.name → k = k' := by decide
  have hmem : ∀ k, k ∈ all := by
    intro k
    cases k <;> decide
  exact fun k k' => hall k (hmem k) k' (hmem k')

lemma TokenKind.name_append_injective {k k' : TokenKind} {r u : List Char}
    (h : k.name.toList ++ ' ' :: r = k'.name.toList ++ ' ' :: u) : k = k' ∧ r = u := by
  have hname : ∀ k : TokenKind, ∀ c ∈ k.name.toList, (c != ' ') = true := by
    intro k
    rw [← List.all_eq_true]
    cases k <;> rfl
  have hblank : ∀ r : List Char, ∀ c ∈ (' ' :: r).head?, (c != ' ') = false := by
    intro r c hc
    cases hc
    rfl
  obtain ⟨heq, hrest⟩ := run_append_injective (hname k) (hname k') (hblank r) (hblank u) h
  exact ⟨name_injective (String.toList_injective heq), List.tail_eq_of_cons_eq hrest⟩

/-! ### Comparisons and chains -/

/-- How a comparison is written behind its opening parenthesis. -/
def Comparison.inner (c : Comparison) : List Char :=
  (quote c.field).toList ++
    ' ' :: (c.op.name.toList ++ ' ' :: (c.comparand.expr.render.toList ++ [')']))

lemma Comparison.toList_render (c : Comparison) :
    c.filter.toExpr.render.toList = '(' :: c.inner := by
  rw [Filter.toExpr, filter, toList_render_binary, Expr.render, inner]
  simp only [List.cons_append, List.append_assoc]

lemma Comparison.inner_append_injective {c d : Comparison} {r u : List Char}
    (hc : ∀ item ∈ c.filter.toExpr.listItems, IsPlainItem item)
    (hd : ∀ item ∈ d.filter.toExpr.listItems, IsPlainItem item)
    (h : c.inner ++ r = d.inner ++ u) : c.filter = d.filter ∧ r = u := by
  simp only [inner, List.append_assoc, List.cons_append] at h
  obtain ⟨hfield, h⟩ := quote_append_injective h
  obtain ⟨hop, h⟩ := TokenKind.name_append_injective (List.tail_eq_of_cons_eq h)
  obtain ⟨hvalue, h⟩ := Comparand.render_append_injective hc hd h
  exact ⟨by rw [filter, filter, hfield, hop, hvalue], List.tail_eq_of_cons_eq h⟩

/-- How a comparison is written behind a chain, with the parenthesis that closes both. -/
def Link.text (l : Link) : List Char :=
  ' ' :: (l.op.name.toList ++ ' ' :: '(' :: (l.comparison.inner ++ [')']))

lemma Link.toList_render_join (f : Filter) (l : Link) :
    (l.join f).toExpr.render.toList = '(' :: (f.toExpr.render.toList ++ l.text) := by
  rw [join, Filter.toExpr, toList_render_binary, l.comparison.toList_render, text]
  simp only [List.cons_append, List.append_assoc]

/-- All parentheses of a chain open at its start. -/
lemma toList_render_foldl_join (f : Filter) (links : List Link) :
    (links.foldl Link.join f).toExpr.render.toList =
      List.replicate links.length '(' ++ (f.toExpr.render.toList ++ links.flatMap Link.text) := by
  induction links generalizing f with
  | nil => simp
  | cons l links ih =>
    rw [List.foldl_cons, ih, l.toList_render_join, List.length_cons, List.replicate_succ',
      List.flatMap_cons]
    simp only [List.append_assoc, List.cons_append, List.nil_append]

lemma Link.text_append_injective {l m : Link} {r u : List Char}
    (hl : ∀ item ∈ l.comparison.filter.toExpr.listItems, IsPlainItem item)
    (hm : ∀ item ∈ m.comparison.filter.toExpr.listItems, IsPlainItem item)
    (h : l.text ++ r = m.text ++ u) : (∀ f, l.join f = m.join f) ∧ r = u := by
  simp only [text, List.append_assoc, List.cons_append] at h
  obtain ⟨hop, h⟩ := TokenKind.name_append_injective (List.tail_eq_of_cons_eq h)
  obtain ⟨hcomparison, h⟩ := Comparison.inner_append_injective hl hm (List.tail_eq_of_cons_eq h)
  exact ⟨fun f => by rw [join, join, hop, hcomparison], List.tail_eq_of_cons_eq h⟩

lemma listItems_foldl_join {f : Filter} {links : List Link} {P : String → Prop}
    (h : ∀ item ∈ (links.foldl Link.join f).toExpr.listItems, P item) :
    (∀ item ∈ f.toExpr.listItems, P item) ∧
      ∀ l ∈ links, ∀ item ∈ l.comparison.filter.toExpr.listItems, P item := by
  induction links generalizing f with
  | nil => exact ⟨h, by simp⟩
  | cons l links ih =>
    obtain ⟨hjoin, hlinks⟩ := ih h
    have hitems : (l.join f).toExpr.listItems =
      f.toExpr.listItems ++ l.comparison.filter.toExpr.listItems := rfl
    rw [hitems, List.forall_mem_append] at hjoin
    exact ⟨hjoin.1, List.forall_mem_cons.mpr ⟨hjoin.2, hlinks⟩⟩

lemma foldl_join_congr {links links' : List Link}
    (hlinks : ∀ l ∈ links, ∀ item ∈ l.comparison.filter.toExpr.listItems, IsPlainItem item)
    (hlinks' : ∀ l ∈ links', ∀ item ∈ l.comparison.filter.toExpr.listItems, IsPlainItem item)
    (h : links.flatMap Link.text = links'.flatMap Link.text) (f : Filter) :
    links.foldl Link.join f = links'.foldl Link.join f := by
  induction links generalizing links' f with
  | nil =>
    cases links' with
    | nil => rfl
    | cons m links' => simp [Link.text] at h
  | cons l links ih =>
    cases links' with
    | nil => simp [Link.text] at h
    | cons m links' =>
      rw [List.forall_mem_cons] at hlinks hlinks'
      rw [List.flatMap_cons, List.flatMap_cons] at h
      obtain ⟨hjoin, h⟩ := Link.text_append_injective hlinks.1 hlinks'.1 h
      rw [List.foldl_cons, List.foldl_cons, hjoin f]
      exact ih hlinks.2 hlinks'.2 h (m.join f)

lemma Chain.filter_injective {c d : Chain}
    (hc : ∀ item ∈ c.filter.toExpr.listItems, IsPlainItem item)
    (hd : ∀ item ∈ d.filter.toExpr.listItems, IsPlainItem item)
    (h : c.filter.toExpr.render = d.filter.toExpr.render) : c.filter = d.filter := by
  obtain ⟨hfirst, hlinks⟩ := listItems_foldl_join hc
  obtain ⟨hfirst', hlinks'⟩ := listItems_foldl_join hd
  have h := congrArg String.toList h
  simp only [filter, toList_render_foldl_join, Comparison.toList_render, List.cons_append] at h
  have hparen : ∀ n, ∀ x ∈ List.replicate n '(', (x == '(') = true := by
    intro n x hx
    rw [List.eq_of_mem_replicate hx]
    rfl
  -- the parenthesis of the first comparison belongs to the run, and its quote ends the run
  have hrun : ∀ (n : Nat) (e : Comparison) (r : List Char),
      List.replicate n '(' ++ '(' :: (e.inner ++ r) =
        List.replicate (n + 1) '(' ++ (e.inner ++ r) := by
    intro n e r
    rw [List.replicate_succ', List.append_assoc, List.singleton_append]
  have hquote : ∀ (e : Comparison) (r : List Char), ∀ x ∈ (e.inner ++ r).head?,
      (x == '(') = false := by
    intro e r x hx
    rw [Comparison.inner, toList_quote] at hx
    cases hx
    rfl
  rw [hrun, hrun] at h
  obtain ⟨-, h⟩ := run_append_injective (hparen _) (hparen _) (hquote _ _) (hquote _ _) h
  obtain ⟨heq, h⟩ := Comparison.inner_append_injective hfirst hfirst' h
  rw [filter, filter, heq, foldl_join_congr hlinks hlinks' h]

/-- Two texts that are read as filters, in which no item of a list has a comma or a closing bracket,
have the same canonical form only if they are read as the same filter. -/
theorem parse_eq_of_canonical_eq {text text' : String} {f g : Filter}
    (hf : Filter.parse text = .ok f) (hg : Filter.parse text' = .ok g)
    (hitems : ∀ item ∈ f.toExpr.listItems, IsPlainItem item)
    (hitems' : ∀ item ∈ g.toExpr.listItems, IsPlainItem item) (h : f.canonical = g.canonical) :
    f = g ∧ f.same g ∧ ∀ a : Album, f.matches a = g.matches a := by
  obtain ⟨c, rfl, -⟩ := layout_of_parse hf
  obtain ⟨d, rfl, -⟩ := layout_of_parse hg
  rw [Filter.canonical_eq_render, Filter.canonical_eq_render] at h
  have heq := Chain.filter_injective hitems hitems' h
  exact ⟨heq, Filter.same_iff.mpr heq, fun a => by rw [heq]⟩

/-- Two spellings of one filter, with a quote in a text and an empty item. -/
theorem canonical_of_two_spellings : ∃ f g,
    Filter.parse "name = 'a\"' and owner in ['b',\"\"]" = .ok f ∧
      Filter.parse "name='a\"'AND owner IN [\"b\", '']" = .ok g ∧
      f.canonical = "((\"name\" = \"a\\\"\") and (\"owner\" in [b,]))" ∧
      f.canonical = g.canonical ∧ f = g ∧ f.same g := by
  have hf : Filter.parse "name = 'a\"' and owner in ['b',\"\"]" =
      .ok ⟨.binary (.field "name") .eq (.text "a\""), .and,
        .binary (.field "owner") .oneOf (.list ["b", ""])⟩ := by decide +kernel
  have hg : Filter.parse "name='a\"'AND owner IN [\"b\", '']" =
      .ok ⟨.binary (.field "name") .eq (.text "a\""), .and,
        .binary (.field "owner") .oneOf (.list ["b", ""])⟩ := by decide +kernel
  have hitems : ∀ item ∈ ["b", ""], IsPlainItem item := by
    simp [IsPlainItem]
  obtain ⟨heq, hsame, -⟩ := parse_eq_of_canonical_eq hf hg hitems hitems rfl
  refine ⟨_, _, hf, hg, ?_, rfl, heq, hsame⟩
  rw [Filter.canonical_eq_render]
  decide

/-- An item with a comma in it is written like two items. -/
example : Expr.render (.list ["a,b"]) = Expr.render (.list ["a", "b"]) := by decide

end AlbumCatalog
