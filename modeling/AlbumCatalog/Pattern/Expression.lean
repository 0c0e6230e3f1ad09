import AlbumCatalog.Unicode.Name

/-!
# Regular expressions

What a pattern means, once its spelling is resolved: case, dots and classes have become sets of
characters. Groups that capture mean no more than what is in them, but take room of their own.
-/

namespace AlbumCatalog

/-- How a place lies to the words around it. -/
inductive WordEdge
  | boundary
  | inside
  | start
  | finish
  | startHalf
  | finishHalf
  deriving DecidableEq, Repr

/-- A condition on a place in the text that takes no characters. A line ends at a line feed, or with
`returns` also at a carriage return or at both together. -/
inductive Look
  | textStart
  | textEnd
  | lineStart (returns : Bool)
  | lineEnd (returns : Bool)
  | word (edge : WordEdge) (letters : CharSet)
  deriving DecidableEq, Repr

inductive Regex
  | empty
  | char (set : CharSet)
  | look (condition : Look)
  | sequence (first second : Regex)
  | either (first second : Regex)
  | repeated (body : Regex) (least : Nat) (most : Option Nat)
  | captured (body : Regex)
  deriving DecidableEq, Repr

namespace Regex

/-- One after another. -/
def sequenceAll : List Regex → Regex
  | [] => empty
  | [r] => r
  | r :: s :: rs => sequence r (sequenceAll (s :: rs))

/-- The sets, if each of the expressions is a single character of some set. -/
def sets? : List Regex → Option (List CharSet)
  | [] => some []
  | char set :: rs => (sets? rs).map (set :: ·)
  | _ => none

/-- Any one of them, as a chain of choices. -/
def choiceOf : List Regex → Regex
  | [] => empty
  | [r] => r
  | r :: s :: rs => either r (choiceOf (s :: rs))

/-- Any one of them. A choice between single characters is one set. -/
def eitherOf (rs : List Regex) : Regex :=
  match sets? rs with
  | some sets => char (.unionAll sets)
  | none => choiceOf rs

/-- Whether all that it takes must be the empty text. -/
def takesNothing : Regex → Bool
  | empty => true
  | char _ => false
  | look _ => true
  | sequence r s => r.takesNothing && s.takesNothing
  | either r s => r.takesNothing && s.takesNothing
  | repeated r _ most => r.takesNothing || most == some 0
  | captured r => r.takesNothing

/-- Whether all that it takes has a character. -/
def takesSomething : Regex → Bool
  | empty => false
  | char _ => true
  | look _ => false
  | sequence r s => r.takesSomething || s.takesSomething
  | either r s => r.takesSomething && s.takesSomething
  | repeated r least _ => least != 0 && r.takesSomething
  | captured r => r.takesSomething

theorem eq_map_char_of_sets? {rs : List Regex} {sets : List CharSet} (h : sets? rs = some sets) :
    rs = sets.map char := by
  induction rs generalizing sets with
  | nil => cases h; rfl
  | cons r rs ih =>
    cases r with
    | char set =>
      obtain ⟨others, hothers, rfl⟩ := Option.map_eq_some_iff.mp h
      rw [ih hothers, List.map_cons]
    | _ => cases h

end Regex

end AlbumCatalog
