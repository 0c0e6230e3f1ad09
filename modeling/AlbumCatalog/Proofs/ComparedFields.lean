import AlbumCatalog.Proofs.Evaluation
import Mathlib.Data.List.Basic

/-!
# The fields that a filter looks at

A comparison looks at the field that its left side names, and at nothing else of an album. So two
albums that agree on the fields of all comparisons of a filter are the same for the filter: it gives
the same answer for both or fails with the same error. No filter looks at the number of an album, or
at what is granted to an owner.
-/

namespace AlbumCatalog

/-- Two albums are alike in what a filter can see of the field. -/
def Field.AgreesOn (a b : Album) : Field → Prop
  | name => a.name = b.name
  | description => a.description = b.description
  | location => a.location = b.location
  | owner => a.owner = b.owner
  | date => a.createdAt = b.createdAt
  | tag => a.tags = b.tags
  | userPermissions => a.userOwners = b.userOwners
  | groupPermissions => a.groupOwners = b.groupOwners

namespace Expr

/-- The field that an expression names, if it is the name of one. -/
def namedField? : Expr → Option Field
  | field name => Field.ofText? name
  | _ => none

/-- The fields that are named on the left of the comparisons, from left to right. What stands inside
the sides of a comparison is no comparison of the filter. -/
def comparedFields : Expr → List Field
  | binary l op r =>
    if op.isCombinator then l.comparedFields ++ r.comparedFields else l.namedField?.toList
  | _ => []

end Expr

section Agreement

variable {a b : Album}

lemma apply_comp_congr {ε β : Type} {g : Album → β} (h : g a = g b)
    (test : Except ε (β → Bool)) : (· a) <$> (· ∘ g) <$> test = (· b) <$> (· ∘ g) <$> test := by
  rw [apply_map_comp, apply_map_comp, h]

lemma Field.test_congr {field : Field} (h : field.AgreesOn a b) (op : TokenKind) (right : Expr) :
    (· a) <$> field.test op right = (· b) <$> field.test op right := by
  cases field <;> exact apply_comp_congr h _

lemma compareAlbum_congr {left : Expr} (h : ∀ field ∈ left.namedField?, field.AgreesOn a b)
    (op : TokenKind) (right : Expr) :
    compareAlbum a left op right = compareAlbum b left op right := by
  cases left with
  | field name =>
    rw [compareAlbum, compareAlbum, comparisonTest]
    cases hname : Field.ofText? name with
    | none => rfl
    | some field => exact Field.test_congr (h field hname) op right
  | _ => rfl

lemma Expr.meaning_congr {e : Expr} (h : ∀ field ∈ e.comparedFields, field.AgreesOn a b) :
    e.meaning a = e.meaning b := by
  induction e with
  | binary l op r ihl ihr =>
    by_cases hop : op.isCombinator
    · rw [comparedFields, if_pos hop, List.forall_mem_append] at h
      rw [meaning, meaning, if_pos hop, if_pos hop, ihl h.1, ihr h.2]
    · rw [comparedFields, if_neg hop] at h
      rw [meaning, meaning, if_neg hop, if_neg hop]
      exact compareAlbum_congr (fun field hfield => h field (Option.mem_toList.mpr hfield)) op r
  | _ => rfl

end Agreement

/-- A filter of any shape treats two albums alike if they agree on the fields of its comparisons: it
gives one answer for both or fails with one error. So an album may get another number, and its grants
other permissions as long as their owners stay the same, without any filter noticing it. -/
theorem filter_looks_only_at_compared_fields (f : Filter) :
    (∀ a b : Album, (∀ field ∈ f.toExpr.comparedFields, field.AgreesOn a b) →
      f.matches a = f.matches b) ∧
    ∀ (a : Album) (id : { n : Int // IsId n }) (userGrants groupGrants : List Grant),
      userGrants.map Grant.owner = a.userOwners → groupGrants.map Grant.owner = a.groupOwners →
      f.matches { a with id := id, userGrants := userGrants, groupGrants := groupGrants } =
        f.matches a := by
  have hagree : ∀ a b : Album, (∀ field ∈ f.toExpr.comparedFields, field.AgreesOn a b) →
      f.matches a = f.matches b := by
    intro a b h
    rw [f.matches_eq_meaning, f.matches_eq_meaning, Expr.meaning_congr h]
  refine ⟨hagree, fun a id userGrants groupGrants huser hgroup => hagree _ _ fun field _ => ?_⟩
  cases field with
  | userPermissions => exact huser
  | groupPermissions => exact hgroup
  | _ => rfl

/-- Two albums that have the same users and days, but not the same groups, names or permissions, for a
filter on users that fails in its second comparison, and for one on users and days. -/
theorem filter_looks_only_at_users_and_days :
    let a : Album := ⟨⟨1, by decide⟩, "a", "", "", "o", .midnight ⟨2022, 2, 1, by decide⟩, ["t"],
      [⟨"ann", [.read]⟩], [⟨"ann", []⟩]⟩
    let b : Album := ⟨⟨-2, by decide⟩, "é", "", "x", "", .midnight ⟨2022, 2, 1, by decide⟩, [],
      [⟨"ann", []⟩], [⟨"bob", [.delete]⟩]⟩
    let user := Expr.binary (.field "permissions.user") .eq (.text "ann")
    let passes : Filter := ⟨user, .and, .binary (.field "date") .eq (.text "1/2/2022")⟩
    let fails : Filter := ⟨user, .or, .binary (.field "nmae") .eq (.field "name")⟩
    passes.toExpr.comparedFields = [.userPermissions, .date] ∧
      passes.matches a = passes.matches b ∧ passes.matches b = .ok true ∧
      fails.toExpr.comparedFields = [.userPermissions] ∧
      fails.matches a = fails.matches b ∧
      fails.matches b = .error (.unknownField "nmae" (some .name)) := by
  intro a b user passes fails
  have hagree : ∀ field ∈ [Field.userPermissions, .date], field.AgreesOn a b :=
    List.forall_mem_cons.mpr ⟨rfl, List.forall_mem_singleton.mpr rfl⟩
  refine ⟨rfl, (filter_looks_only_at_compared_fields passes).1 a b hagree, ?_, rfl,
    (filter_looks_only_at_compared_fields fails).1 a b ?_, ?_⟩
  · rw [Filter.matches_eq_meaning]
    decide +kernel
  · exact fun field hfield => hagree field (List.mem_cons.mpr (.inl (List.mem_singleton.mp hfield)))
  · rw [Filter.matches_eq_meaning]
    decide +kernel

end AlbumCatalog
