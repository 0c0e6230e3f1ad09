import AlbumCatalog.Pattern.Expression

/-!
# Finding an expression in a text

An expression leads from a place in the text to every place where a part that it takes can end.
`Regex.advance` moves a set of places at once, so that no place is looked at twice in the same turn
and nothing is tried again. Sets of places are lists in ascending order.
-/

namespace AlbumCatalog

/-- All places of two sets. -/
def joinPlaces (is js : List Nat) : List Nat :=
  match is, js with
  | [], js => js
  | is, [] => is
  | i :: is, j :: js =>
    if i < j then i :: joinPlaces is (j :: js)
    else if j < i then j :: joinPlaces (i :: is) js
    else i :: joinPlaces is js
termination_by is.length + js.length

/-- The places of the first set that are not in the second. -/
def dropPlaces (is js : List Nat) : List Nat :=
  match is, js with
  | [], _ => []
  | is, [] => is
  | i :: is, j :: js =>
    if i < j then i :: dropPlaces is (j :: js)
    else if j < i then dropPlaces (i :: is) js
    else dropPlaces is js
termination_by is.length + js.length

/-- A step done so many times. When a step changes nothing, no later one does. -/
def stepTimes (step : List Nat → List Nat) : Nat → List Nat → List Nat
  | 0, places => places
  | n + 1, places =>
    let next := step places
    if next = places then places else stepTimes step n next

/-- The places that so many steps or fewer lead to, from those that the last step has added. -/
def stepWithin (step : List Nat → List Nat) : Nat → List Nat → List Nat → List Nat
  | 0, reached, _ => reached
  | n + 1, reached, added =>
    match dropPlaces (step added) reached with
    | [] => reached
    | added => stepWithin step n (joinPlaces reached added) added

namespace Look

def isWordAt (letters : CharSet) (c : Option Char) : Bool :=
  match c with
  | some c => letters.contains c.toNat
  | none => false

/-- Whether a condition holds between two characters, one of which is missing at an end. -/
def holds : Look → Option Char → Option Char → Bool
  | textStart, before, _ => before == none
  | textEnd, _, after => after == none
  | lineStart false, before, _ => before == none || before == some '\n'
  | lineEnd false, _, after => after == none || after == some '\n'
  | lineStart true, before, after =>
    before == none || before == some '\n' || (before == some '\r' && after != some '\n')
  | lineEnd true, before, after =>
    after == none || after == some '\r' || (after == some '\n' && before != some '\r')
  | word edge letters, before, after =>
    let left := isWordAt letters before
    let right := isWordAt letters after
    match edge with
    | .boundary => left != right
    | .inside => left == right
    | .start => !left && right
    | .finish => left && !right
    | .startHalf => !left
    | .finishHalf => !right

def holdsAt (look : Look) (text : Array Char) (place : Nat) : Bool :=
  look.holds (if place = 0 then none else text[place - 1]?) text[place]?

end Look

namespace Regex

/-- The places where parts of the text end that the expression takes from the given places. -/
def advance (text : Array Char) : Regex → List Nat → List Nat
  | empty, places => places
  | char set, places => (places.filter fun i => (text[i]?).any (set.contains ·.toNat)).map (· + 1)
  | look condition, places => places.filter (condition.holdsAt text)
  | sequence r s, places => advance text s (advance text r places)
  | either r s, places => joinPlaces (advance text r places) (advance text s places)
  | repeated r least most, places =>
    let first := stepTimes (advance text r) least places
    let more := match most with
      | some most => most - least
      | none => text.size + 1
    stepWithin (advance text r) more first first
  | captured r, places => advance text r places

/-- Whether some part of the text, which may be empty, is one that the expression takes. -/
def foundIn (r : Regex) (text : String) : Bool :=
  let chars := text.toList.toArray
  !(r.advance chars (List.range (chars.size + 1))).isEmpty

/-! ## Choices between single characters -/

theorem joinPlaces_nil_right (is : List Nat) : joinPlaces is [] = is := by
  cases is <;> simp [joinPlaces]

theorem joinPlaces_cons_left {i : Nat} {js : List Nat} (h : ∀ j ∈ js, i < j) (is : List Nat) :
    joinPlaces (i :: is) js = i :: joinPlaces is js := by
  cases js with
  | nil => rw [joinPlaces_nil_right, joinPlaces_nil_right]
  | cons j js => rw [joinPlaces, if_pos (h j List.mem_cons_self)]

theorem joinPlaces_cons_right {j : Nat} {is : List Nat} (h : ∀ i ∈ is, j < i) (js : List Nat) :
    joinPlaces is (j :: js) = j :: joinPlaces is js := by
  cases is with
  | nil => simp [joinPlaces]
  | cons i is =>
    have hlt := h i List.mem_cons_self
    rw [joinPlaces, if_neg (Nat.lt_asymm hlt), if_pos hlt]

/-- Two selections of the same places are joined to the selection by both conditions. -/
theorem joinPlaces_filter (p q : Nat → Bool) {places : List Nat} (h : places.Pairwise (· < ·)) :
    joinPlaces ((places.filter p).map (· + 1)) ((places.filter q).map (· + 1)) =
      (places.filter fun i => p i || q i).map (· + 1) := by
  induction places with
  | nil => simp [joinPlaces]
  | cons i places ih =>
    have hafter : ∀ (p : Nat → Bool), ∀ j ∈ (places.filter p).map (· + 1), i + 1 < j := by
      intro p j hj
      obtain ⟨k, hk, rfl⟩ := List.mem_map.mp hj
      exact Nat.succ_lt_succ (List.rel_of_pairwise_cons h (List.mem_filter.mp hk).1)
    -- the place is in neither selection, in the second or the first alone, or in both
    cases hp : p i <;> cases hq : q i <;>
      simp only [List.filter_cons, hp, hq, Bool.or_self, Bool.or_true, Bool.or_false, if_true,
        Bool.false_eq_true, if_false, List.map_cons]
    · exact ih h.of_cons
    · rw [joinPlaces_cons_right (hafter p), ih h.of_cons]
    · rw [joinPlaces_cons_left (hafter q), ih h.of_cons]
    · rw [joinPlaces, if_neg (Nat.lt_irrefl _), if_neg (Nat.lt_irrefl _), ih h.of_cons]

theorem advance_choiceOf_char (text : Array Char) {sets : List CharSet} (hsets : sets ≠ [])
    {places : List Nat} (h : places.Pairwise (· < ·)) :
    advance text (choiceOf (sets.map char)) places = advance text (char (.unionAll sets)) places := by
  induction sets with
  | nil => exact absurd rfl hsets
  | cons set others ih =>
    cases others with
    | nil => simp only [List.map_cons, List.map_nil, choiceOf, advance, CharSet.contains_unionAll,
        List.any_cons, List.any_nil, Bool.or_false]
    | cons next others =>
      change joinPlaces (advance text (char set) places)
        (advance text (choiceOf ((next :: others).map char)) places) = _
      rw [ih (List.cons_ne_nil _ _)]
      simp only [advance]
      rw [joinPlaces_filter _ _ h]
      congr 2
      funext i
      cases text[i]? <;> simp [CharSet.contains_unionAll]

/-- A choice that is read as one set leads to the same places as a chain of choices. -/
theorem advance_eitherOf (text : Array Char) {rs : List Regex} (hrs : rs ≠ []) {places : List Nat}
    (h : places.Pairwise (· < ·)) :
    advance text (eitherOf rs) places = advance text (choiceOf rs) places := by
  unfold eitherOf
  split
  · rename_i sets hsets
    obtain rfl := eq_map_char_of_sets? hsets
    rw [advance_choiceOf_char text (fun hnil => hrs (by rw [hnil, List.map_nil])) h]
  · rfl

theorem foundIn_eitherOf {rs : List Regex} (hrs : rs ≠ []) (text : String) :
    (eitherOf rs).foundIn text = (choiceOf rs).foundIn text := by
  rw [foundIn, foundIn, advance_eitherOf _ hrs List.pairwise_lt_range]

end Regex

end AlbumCatalog
