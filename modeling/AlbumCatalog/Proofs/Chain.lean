import AlbumCatalog.Filter.Parse
import AlbumCatalog.Proofs.Layout

/-!
# Chains of comparisons

The grammar of filters. A chain is one comparison, or a chain, a combinator and a comparison; a
comparison is a field name, a comparison operator and a string or a list of strings. `symbols`
spells each of them in order and `filter` builds its tree, which for a chain leans to the left.
-/

namespace AlbumCatalog

/-- The right side of a comparison. A list has at least one item. -/
inductive Comparand
  | text (value : String)
  | list (first : String) (more : List String)

namespace Comparand

def expr : Comparand → Expr
  | text value => .text value
  | list first more => .list (first :: more)

def itemSymbols (first : String) (more : List String) : List Symbol :=
  ⟨.string, first⟩ :: more.flatMap fun item => [⟨.comma, ""⟩, ⟨.string, item⟩]

def symbols : Comparand → List Symbol
  | text value => [⟨.string, value⟩]
  | list first more => ⟨.leftBracket, ""⟩ :: itemSymbols first more ++ [⟨.rightBracket, ""⟩]

end Comparand

structure Comparison where
  field : String
  op : TokenKind
  comparand : Comparand
  isFieldName : IsFieldName field.toList
  isComparison : op.isComparison

namespace Comparison

def filter (c : Comparison) : Filter :=
  ⟨.field c.field, c.op, c.comparand.expr⟩

def symbols (c : Comparison) : List Symbol :=
  ⟨.field, c.field⟩ :: ⟨c.op, ""⟩ :: c.comparand.symbols

end Comparison

/-- A comparison with the combinator before it. -/
structure Link where
  op : TokenKind
  comparison : Comparison
  isCombinator : op.isCombinator

namespace Link

def join (f : Filter) (l : Link) : Filter :=
  ⟨f.toExpr, l.op, l.comparison.filter.toExpr⟩

def symbols (l : Link) : List Symbol :=
  ⟨l.op, ""⟩ :: l.comparison.symbols

end Link

structure Chain where
  first : Comparison
  links : List Link

namespace Chain

/-- The tree of a chain, `((c₁ op₁ c₂) op₂ c₃) …`. -/
def filter (c : Chain) : Filter :=
  c.links.foldl Link.join c.first.filter

def symbols (c : Chain) : List Symbol :=
  c.first.symbols ++ c.links.flatMap Link.symbols

def snoc (c : Chain) (l : Link) : Chain :=
  ⟨c.first, c.links ++ [l]⟩

@[simp]
lemma filter_snoc (c : Chain) (l : Link) : (c.snoc l).filter = l.join c.filter := by
  simp [filter, snoc]

@[simp]
lemma symbols_snoc (c : Chain) (l : Link) : (c.snoc l).symbols = c.symbols ++ l.symbols := by
  simp [symbols, snoc]

end Chain

lemma Comparand.itemSymbols_snoc (first item : String) (more : List String) :
    itemSymbols first (more ++ [item]) =
      itemSymbols first more ++ [⟨.comma, ""⟩, ⟨.string, item⟩] := by
  simp [itemSymbols]

/-! ### The transitions of the grammar -/

/-- How each state of the grammar goes on to the next. -/
inductive Advances : Awaiting → Symbol → Awaiting → Prop
  | field {before : Joined} {name : String} :
      Advances (.field before) ⟨.field, name⟩ (.operator before name)
  | operator {before : Joined} {name literal : String} {op : TokenKind} (hop : op.isComparison) :
      Advances (.operator before name) ⟨op, literal⟩ (.value before name op)
  | text {before : Joined} {name value : String} {op : TokenKind} :
      Advances (.value before name op) ⟨.string, value⟩
        (.combinator (before.close ⟨.field name, op, .text value⟩))
  | list {before : Joined} {name literal : String} {op : TokenKind} :
      Advances (.value before name op) ⟨.leftBracket, literal⟩ (.item before name op [])
  | item {before : Joined} {name value : String} {op : TokenKind} {items : List String} :
      Advances (.item before name op items) ⟨.string, value⟩
        (.separator before name op (value :: items))
  | comma {before : Joined} {name literal : String} {op : TokenKind} {items : List String} :
      Advances (.separator before name op items) ⟨.comma, literal⟩ (.item before name op items)
  | close {before : Joined} {name literal : String} {op : TokenKind} {items : List String} :
      Advances (.separator before name op items) ⟨.rightBracket, literal⟩
        (.combinator (before.close ⟨.field name, op, .list items.reverse⟩))
  | join {f : Filter} {literal : String} {op : TokenKind} (hop : op.isCombinator) :
      Advances (.combinator f) ⟨op, literal⟩ (.field (some (f, op)))

lemma TokenKind.isCombinator_iff {k : TokenKind} : k.isCombinator ↔ k = .and ∨ k = .or := by
  cases k <;> simp [isCombinator]

lemma TokenKind.not_isCombinator {k : TokenKind} (hk : k.isComparison) : ¬ k.isCombinator := by
  intro hcomb
  rcases isCombinator_iff.mp hcomb with rfl | rfl <;> cases hk

lemma Awaiting.next_of_advances {s s' : Awaiting} {t : Token} (h : Advances s t.symbol s') :
    s.next t = .ok s' := by
  obtain ⟨p, k, l⟩ := t
  cases h with
  | operator hop => simp [next, hop]
  | join hop => rcases TokenKind.isCombinator_iff.mp hop with rfl | rfl <;> rfl
  | _ => rfl

lemma Awaiting.advances_of_next {s s' : Awaiting} {t : Token} (h : s.next t = .ok s') :
    Advances s t.symbol s' := by
  obtain ⟨p, k, l⟩ := t
  cases s with
  | operator before name =>
    simp only [next] at h
    split at h
    · rename_i hop
      cases h
      exact .operator hop
    · cases h
  | _ =>
    cases k <;> cases h <;> first | exact .join rfl | constructor

lemma Awaiting.refuse_of_next {s : Awaiting} {t : Token} {e : ParseError}
    (h : s.next t = .error e) : e = s.refuse t := by
  obtain ⟨p, k, l⟩ := t
  cases s with
  | operator before name =>
    simp only [next] at h
    split at h <;> cases h
    rfl
  | _ => cases k <;> cases h <;> rfl

inductive Reads : Awaiting → List Symbol → Awaiting → Prop
  | nil {s : Awaiting} : Reads s [] s
  | cons {s s' s'' : Awaiting} {x : Symbol} {xs : List Symbol} (hx : Advances s x s')
      (hxs : Reads s' xs s'') : Reads s (x :: xs) s''

lemma Reads.append {s s' s'' : Awaiting} {xs ys : List Symbol} (h : Reads s xs s')
    (h' : Reads s' ys s'') : Reads s (xs ++ ys) s'' := by
  induction h with
  | nil => exact h'
  | cons hx hxs ih => exact .cons hx (ih h')

lemma Reads.of_append {s s'' : Awaiting} {xs ys : List Symbol} (h : Reads s (xs ++ ys) s'') :
    ∃ s', Reads s xs s' ∧ Reads s' ys s'' := by
  induction xs generalizing s with
  | nil => exact ⟨s, .nil, h⟩
  | cons x xs ih =>
    cases h with
    | cons hx hxs =>
      obtain ⟨s', hs, hs'⟩ := ih hxs
      exact ⟨s', .cons hx hs, hs'⟩

lemma foldlM_next_eq_ok_iff {ts : List Token} {s s' : Awaiting} :
    ts.foldlM Awaiting.next s = .ok s' ↔ Reads s (ts.map Token.symbol) s' := by
  induction ts generalizing s with
  | nil =>
    constructor
    · intro h
      cases h
      exact .nil
    · intro h
      cases h
      rfl
  | cons t ts ih =>
    rw [List.foldlM_cons, List.map_cons]
    constructor
    · intro h
      cases hnext : s.next t with
      | error e => simp [hnext, bind, Except.bind] at h
      | ok s₁ =>
        rw [hnext] at h
        exact .cons (Awaiting.advances_of_next hnext) (ih.mp h)
    · intro h
      cases h with
      | cons hx hxs =>
        rw [Awaiting.next_of_advances hx]
        exact ih.mpr hxs

/-! ### Chains are read -/

lemma reads_items {before : Joined} {name : String} {op : TokenKind} (items more : List String) :
    Reads (.separator before name op items)
      ((more.flatMap fun item => [⟨.comma, ""⟩, ⟨.string, item⟩]) ++ [⟨.rightBracket, ""⟩])
      (.combinator (before.close ⟨.field name, op, .list (items.reverse ++ more)⟩)) := by
  induction more generalizing items with
  | nil =>
    rw [List.append_nil]
    exact .cons .close .nil
  | cons item more ih =>
    have h := ih (item :: items)
    rw [List.reverse_cons, List.append_assoc] at h
    exact .cons .comma (.cons .item h)

lemma Comparison.reads (c : Comparison) (before : Joined) :
    Reads (.field before) c.symbols (.combinator (before.close c.filter)) := by
  refine .cons .field (.cons (.operator c.isComparison) ?_)
  cases h : c.comparand with
  | text value =>
    simp only [filter, h]
    exact .cons .text .nil
  | list first more =>
    simp only [filter, h]
    exact .cons .list (.cons .item (reads_items [first] more))

lemma reads_links (f : Filter) (links : List Link) :
    Reads (.combinator f) (links.flatMap Link.symbols) (.combinator (links.foldl Link.join f)) := by
  induction links generalizing f with
  | nil => exact .nil
  | cons l links ih =>
    have hlink : Reads (.combinator f) l.symbols (.combinator (l.join f)) :=
      .cons (.join l.isCombinator) (l.comparison.reads (some (f, l.op)))
    exact hlink.append (ih (l.join f))

lemma Chain.reads (c : Chain) :
    Reads (.field none) c.symbols (.combinator c.filter) :=
  (c.first.reads none).append (reads_links c.first.filter c.links)

end AlbumCatalog
