import AlbumCatalog.Proofs.Worklists

/-!
# The canonical form of a filter

`Rendering` says without a list of pending work how a tree is written: both sides of an operator in
parentheses with its name between them, names and texts in quotes with their marks, and the items of
a list as they are. The canonical form of a filter is its only rendering.
-/

namespace AlbumCatalog

/-- The characters of a text with a backslash before each quote and each backslash. -/
inductive Escaped : List Char → List Char → Prop
  | nil : Escaped [] []
  | marked {c : Char} {s w : List Char} (hc : c = '"' ∨ c = '\\') (h : Escaped s w) :
      Escaped (c :: s) ('\\' :: c :: w)
  | plain {c : Char} {s w : List Char} (hquote : c ≠ '"') (hslash : c ≠ '\\') (h : Escaped s w) :
      Escaped (c :: s) (c :: w)

inductive Rendering : Expr → List Char → Prop
  | binary {l r : Expr} {op : TokenKind} {v w : List Char} (hl : Rendering l v)
      (hr : Rendering r w) :
      Rendering (.binary l op r) ('(' :: v ++ ' ' :: op.name.toList ++ ' ' :: w ++ [')'])
  | field {name : String} {w : List Char} (h : Escaped name.toList w) :
      Rendering (.field name) ('"' :: w ++ ['"'])
  | text {value : String} {w : List Char} (h : Escaped value.toList w) :
      Rendering (.text value) ('"' :: w ++ ['"'])
  | list {items : List String} :
      Rendering (.list items) ('[' :: [','].intercalate (items.map String.toList) ++ [']'])

/-! ### Names and texts -/

namespace Expr

def escapeChar (c : Char) : List Char :=
  if c = '"' ∨ c = '\\' then ['\\', c] else [c]

lemma toList_quote (s : String) :
    (quote s).toList = '"' :: (s.toList.flatMap escapeChar ++ ['"']) := by
  have hescape : (escape s).toList = s.toList.flatMap escapeChar := String.toList_ofList
  rw [quote, String.toList_append, String.toList_append, hescape]
  rfl

end Expr

lemma escaped_iff {s w : List Char} : Escaped s w ↔ w = s.flatMap Expr.escapeChar := by
  constructor
  · intro h
    induction h with
    | nil => rfl
    | marked hc h ih => rw [List.flatMap_cons, Expr.escapeChar, if_pos hc, ← ih]; rfl
    | plain hquote hslash h ih =>
      rw [List.flatMap_cons, Expr.escapeChar, if_neg (not_or.mpr ⟨hquote, hslash⟩), ← ih]
      rfl
  · rintro rfl
    induction s with
    | nil => exact .nil
    | cons c s ih =>
      rw [List.flatMap_cons, Expr.escapeChar]
      by_cases hc : c = '"' ∨ c = '\\'
      · rw [if_pos hc]
        exact .marked hc ih
      · rw [if_neg hc]
        obtain ⟨hquote, hslash⟩ := not_or.mp hc
        exact .plain hquote hslash ih

/-! ### Trees -/

lemma toList_render_binary (l r : Expr) (op : TokenKind) :
    (Expr.binary l op r).render.toList =
      '(' :: l.render.toList ++ ' ' :: op.name.toList ++ ' ' :: r.render.toList ++ [')'] := by
  simp [Expr.render]

lemma toList_render_list (items : List String) :
    (Expr.list items).render.toList =
      '[' :: [','].intercalate (items.map String.toList) ++ [']'] := by
  simp [Expr.render]

/-- Every tree has its rendering and no other. -/
lemma rendering_iff {e : Expr} {w : List Char} : Rendering e w ↔ w = e.render.toList := by
  constructor
  · intro h
    induction h with
    | binary hl hr ihl ihr => rw [toList_render_binary, ← ihl, ← ihr]
    | field h | text h => rw [Expr.render, Expr.toList_quote, escaped_iff.mp h]; rfl
    | list => rw [toList_render_list]
  · rintro rfl
    induction e with
    | binary l op r ihl ihr =>
      rw [toList_render_binary]
      exact .binary ihl ihr
    | field name =>
      rw [Expr.render, Expr.toList_quote]
      exact .field (escaped_iff.mpr rfl)
    | text value =>
      rw [Expr.render, Expr.toList_quote]
      exact .text (escaped_iff.mpr rfl)
    | list items =>
      rw [toList_render_list]
      exact .list

/-- Writing an expression with a list of pending pieces puts its recursive rendering behind the text
that is there, before whatever is pending. So the canonical form of a filter of any shape is the
recursive rendering of its tree, and a text is the canonical form exactly when it renders the tree. -/
theorem canonical_is_rendering (f : Filter) :
    (∀ (e : Expr) (pending : List Written) (out : String),
      Written.all (.expr e :: pending) out = Written.all pending (out ++ e.render)) ∧
    f.canonical = f.toExpr.render ∧
    ∀ text : String, f.canonical = text ↔ Rendering f.toExpr text.toList := by
  refine ⟨?_, f.canonical_eq_render, ?_⟩
  · intro e pending out
    rw [Written.all_eq_foldl, Written.all_eq_foldl, List.foldl_cons, Written.text]
  · intro text
    rw [rendering_iff, f.canonical_eq_render, String.toList_inj, eq_comm]

/-- A text with both characters that are marked, in a tree that leans to the right. -/
example : Rendering (.binary (.field "a") .and (.binary (.text "\"\\") .lt (.list ["b", "]"])))
    "(\"a\" and (\"\\\"\\\\\" < [b,]]))".toList := by
  rw [rendering_iff]
  decide

end AlbumCatalog
