import AlbumCatalog.Filter.Evaluate
import Mathlib.Tactic.Lemma

/-!
# Evaluation with pending work

`Filter.matches` walks a tree with a list of pending steps and a list of answers. Doing the steps of
an operand puts its meaning before the answers, or ends the walk with its error, whatever is pending
behind it. So no step ever finds too few answers.
-/

namespace AlbumCatalog

/-- How a walk goes on when an operand has been evaluated. -/
def Step.resume (a : Album) (steps : List Step) (answers : List Bool) :
    Except EvalError Bool → Option (Except EvalError Bool)
  | .ok answer => run a steps (answer :: answers)
  | .error e => some (.error e)

/-- The walk over an operand amounts to its meaning, under any pending steps and answers. -/
lemma Step.run_operand (a : Album) (e : Expr) (steps : List Step) (answers : List Bool) :
    run a (operand e :: steps) answers = resume a steps answers (e.meaning a) := by
  -- for all pending work at once: the right side runs before other answers than the left one
  induction e generalizing steps answers with
  | binary l op r ihl ihr =>
    by_cases hop : op.isCombinator
    · rw [run, if_pos hop, ihl, Expr.meaning, if_pos hop]
      cases l.meaning a with
      | error x => rfl
      | ok left =>
        rw [resume, ihr]
        cases r.meaning a with
        | error x => rfl
        | ok right => rw [resume, run]; rfl
    · rw [run, if_neg hop, Expr.meaning, if_neg hop]
      cases compareAlbum a l op r <;> rfl
  | field name => simp [run, Expr.meaning, resume]
  | text value => simp [run, Expr.meaning, resume]
  | list items => simp [run, Expr.meaning, resume]

lemma Step.run_filter (a : Album) (f : Filter) :
    run a [operand f.toExpr] [] = some (f.toExpr.meaning a) := by
  rw [run_operand]
  cases f.toExpr.meaning a with
  | error x => rfl
  | ok answer => rw [resume, run]; rfl

lemma Filter.matches_eq_meaning (f : Filter) (a : Album) : f.matches a = f.toExpr.meaning a := by
  rw [Filter.matches, Step.run_filter, Option.getD_some]

/-- The walk over a filter ends with the meaning of its tree: both sides of every combinator, the
left one first, and the first error. It never finds too few answers or none at the end. -/
theorem matches_eq_meaning_and_never_stuck (f : Filter) (a : Album) :
    Step.run a [.operand f.toExpr] [] = some (f.toExpr.meaning a) ∧
      f.matches a = f.toExpr.meaning a :=
  ⟨Step.run_filter a f, f.matches_eq_meaning a⟩

end AlbumCatalog
