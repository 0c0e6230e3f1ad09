import AlbumCatalog.Filter.Expr
import Mathlib.Tactic.Lemma

/-!
# Pending work on expressions

Writing and comparing go through a list of what is still to be done. Writing appends the text of
each pending piece, and comparing decides whether the two sides of each pending pair are equal.
-/

namespace AlbumCatalog

/-! ### Writing -/

def Written.text : Written → String
  | expr e => e.render
  | word w => w

/-- The pending pieces are written one behind another. -/
lemma Written.all_eq_foldl (pieces : List Written) (out : String) :
    all pieces out = pieces.foldl (fun s piece => s ++ piece.text) out := by
  fun_induction all pieces out with
  | case1 out => rfl
  | case3 l op r rest out ih =>
    rw [ih]
    simp only [List.foldl_cons, text, Expr.render, String.append_assoc]
  | _ out _ _ ih => exact ih

lemma Filter.canonical_eq_render (f : Filter) : f.canonical = f.toExpr.render := by
  rw [Filter.canonical, Written.all_eq_foldl]
  exact String.empty_append

/-! ### Comparing -/

lemma Filter.allSame_iff (pairs : List (Expr × Expr)) :
    allSame pairs ↔ ∀ p ∈ pairs, p.1 = p.2 := by
  fun_induction allSame pairs with
  | case1 => simp
  | case2 l op r l' op' r' rest ih =>
    simp only [Bool.and_eq_true, beq_iff_eq, ih, List.forall_mem_cons, Expr.binary.injEq]
    rw [and_left_comm, and_assoc, and_assoc]
  | case3 a b rest ih | case4 a b rest ih | case5 a b rest ih =>
    simp only [Bool.and_eq_true, beq_iff_eq, ih, List.forall_mem_cons, Expr.field.injEq,
      Expr.text.injEq, Expr.list.injEq]
  | case6 p rest hbinary hfield htext hlist =>
    -- two expressions that are equal have one of the four shapes
    simp only [Bool.false_eq_true, List.forall_mem_cons, false_iff, not_and]
    obtain ⟨e, e'⟩ := p
    rintro (rfl : e = e')
    cases e with
    | binary l op r => exact absurd rfl (hbinary l op r l op r)
    | field a => exact absurd rfl (hfield a a)
    | text a => exact absurd rfl (htext a a)
    | list a => exact absurd rfl (hlist a a)

lemma Filter.same_iff {f g : Filter} : f.same g ↔ f = g := by
  rw [Filter.same, allSame_iff]
  simp only [List.forall_mem_cons, List.not_mem_nil, false_imp_iff, implies_true, and_true]
  obtain ⟨l, op, r⟩ := f
  obtain ⟨l', op', r'⟩ := g
  simp only [Filter.toExpr, Expr.binary.injEq, Filter.mk.injEq]

end AlbumCatalog
