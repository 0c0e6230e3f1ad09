import AlbumCatalog.Pattern.Escape

/-!
# Classes of characters in brackets

A class lists characters, ranges and sets, and may hold other classes. Three operators, which bind
alike and to the left, combine what stands before and after them. The parts carry the depth of the
nesting, which is limited for the whole pattern.
-/

namespace AlbumCatalog

inductive ClassOperator
  | intersection
  | difference
  | symmetricDifference
  deriving DecidableEq, Repr

def ClassOperator.apply : ClassOperator → CharSet → CharSet → CharSet
  | intersection => CharSet.intersection
  | difference => CharSet.difference
  | symmetricDifference => CharSet.symmetricDifference

/-- A part of a class, and how deep what it is written with is nested. -/
structure ClassPart where
  set : CharSet
  depth : Nat
  deriving DecidableEq, Repr

/-- The least depth that is greater than all of these. -/
def depthAbove (depths : List Nat) : Nat :=
  depths.foldl max 0 + 1

/-- Parts that follow one another. -/
def ClassPart.all : List ClassPart → ClassPart
  | [part] => part
  | [] => ⟨.empty, 0⟩
  | parts => ⟨⟨parts.flatMap (·.set.ranges)⟩, depthAbove (parts.map (·.depth))⟩

/-- A class that is being read: what stands before the last operator, and the parts after it, the
last one first. Hyphens, or one closing bracket, may come first in a class and stand for
themselves. -/
structure OpenClass where
  negated : Bool
  left : Option (ClassPart × ClassOperator)
  parts : List ClassPart
  atStart : Bool
  deriving DecidableEq, Repr

namespace OpenClass

def add (level : OpenClass) (part : ClassPart) : OpenClass :=
  { level with parts := part :: level.parts, atStart := false }

/-- The set of all that has been read. Case is settled on both sides of an operator. -/
def value (f : PatternFlags) (level : OpenClass) : ClassPart :=
  let right := ClassPart.all level.parts.reverse
  match level.left with
  | none => right
  | some (left, operator) =>
    ⟨operator.apply (f.fold left.set) (f.fold right.set), depthAbove [left.depth, right.depth]⟩

def operate (f : PatternFlags) (level : OpenClass) (operator : ClassOperator) : OpenClass :=
  { level with left := some (level.value f, operator), parts := [], atStart := false }

/-- The class as a part of the one around it. -/
def close? (f : PatternFlags) (level : OpenClass) : Option ClassPart :=
  let value := level.value f
  (f.foldAndNegate? level.negated value.set).map fun set => ⟨set, depthAbove [value.depth]⟩

end OpenClass

/-- The sets of ASCII that have a name between colons. -/
def asciiClass? (name : List Char) : Option CharSet :=
  (match String.ofList name with
    | "alnum" => some "30-39 41-5A 61-7A"
    | "alpha" => some "41-5A 61-7A"
    | "ascii" => some "0-7F"
    | "blank" => some "9 20"
    | "cntrl" => some "0-1F 7F"
    | "digit" => some "30-39"
    | "graph" => some "21-7E"
    | "lower" => some "61-7A"
    | "print" => some "20-7E"
    | "punct" => some "21-2F 3A-40 5B-60 7B-7E"
    | "space" => some "9-D 20"
    | "upper" => some "41-5A"
    | "word" => some "30-39 41-5A 5F 61-7A"
    | "xdigit" => some "30-39 41-46 61-66"
    | _ => none).map CharSet.ofTable

namespace PatternFlags

/-- The set that a name between colons means behind a bracket, whether it is turned round, and the
text behind it. -/
def colonClass? : List Char → Option (CharSet × Bool × List Char)
  | ':' :: cs =>
    let negated := cs.head? = some '^'
    let cs := if negated then cs.drop 1 else cs
    match cs.dropWhile (· != ':') with
    | ':' :: ']' :: rest =>
      (asciiClass? (cs.takeWhile (· != ':'))).map fun set => (set, negated, rest)
    | _ => none
  | _ => none

/-- A character or a set in a class. -/
def classItem? (f : PatternFlags) : List Char → Option (PatternItem × List Char)
  | [] => none
  | '\\' :: cs => f.escape? cs
  | c :: cs => some (.literal c false, cs)

/-- The code of a literal in a class, which must be of ASCII without `unicode`. -/
def classCode? (f : PatternFlags) (item : PatternItem) : Option Nat := do
  let c ← item.char? f
  if f.unicode ∨ c.toNat < 0x80 then some c.toNat else none

/-- The next character that a hyphen can stand before. Where blanks are skipped, a comment counts as
blank only up to its first visible character. -/
def afterHyphen (f : PatternFlags) (cs : List Char) : Option Char :=
  if f.spaced then
    match cs.dropWhile isWhite with
    | '#' :: rest => (rest.dropWhile isWhite).head?
    | rest => rest.head?
  else cs.head?

/-- An item of a class or a range between two. A hyphen before a closing bracket or another hyphen
makes no range. -/
def classRange? (f : PatternFlags) (cs : List Char) : Option (ClassPart × List Char) := do
  let (item, rest) ← f.classItem? cs
  match f.gap rest with
  | [] => none
  | '-' :: more =>
    if f.afterHyphen more = some ']' ∨ f.afterHyphen more = some '-' then
      let part ← single item
      some (part, '-' :: more)
    else
      let (last, rest) ← f.classItem? (f.gap more)
      let first ← f.classCode? item
      let last ← f.classCode? last
      if first ≤ last then some (⟨⟨[⟨first, last⟩]⟩, 0⟩, rest) else none
  | rest => do
    let part ← single item
    some (part, rest)
where
  single : PatternItem → Option ClassPart
    | .set s => some ⟨s, 0⟩
    | item => (f.classCode? item).map fun code => ⟨.singleton code, 0⟩

/-- The start of a class, behind its bracket. -/
def openClass (f : PatternFlags) (cs : List Char) : OpenClass × List Char :=
  match f.gap cs with
  | '^' :: rest => (⟨true, none, [], true⟩, rest)
  | rest => (⟨false, none, [], true⟩, rest)

/-- Reads on to the bracket that closes the outermost class. -/
def classFrom? (f : PatternFlags) : Nat → List OpenClass → OpenClass → List Char →
    Option (ClassPart × List Char)
  | 0, _, _, _ => none
  | bound + 1, outer, level, cs =>
    match f.gap cs with
    | [] => none
    | c :: rest =>
      let operate := fun operator =>
        classFrom? f bound outer (level.operate f operator) (rest.drop 1)
      if level.atStart ∧ c = '-' then
        classFrom? f bound outer { level with parts := ⟨.singleton c.toNat, 0⟩ :: level.parts } rest
      else if level.atStart ∧ c = ']' ∧ level.parts = [] then
        classFrom? f bound outer (level.add ⟨.singleton c.toNat, 0⟩) rest
      else if c = '[' then
        match colonClass? rest with
        | some (set, negated, rest) => do
          let set ← f.foldAndNegate? negated set
          classFrom? f bound outer (level.add ⟨set, 0⟩) rest
        | none =>
          let (inner, rest) := f.openClass rest
          classFrom? f bound ({ level with atStart := false } :: outer) inner rest
      else if c = ']' then do
        let part ← level.close? f
        match outer with
        | [] => some (part, rest)
        | parent :: outer => classFrom? f bound outer (parent.add part) rest
      else if c = '&' ∧ rest.head? = some '&' then operate .intersection
      else if c = '-' ∧ rest.head? = some '-' then operate .difference
      else if c = '~' ∧ rest.head? = some '~' then operate .symmetricDifference
      else do
        let (part, rest) ← f.classRange? (c :: rest)
        classFrom? f bound outer (level.add part) rest

/-- Reads a class behind its first bracket. -/
def class? (f : PatternFlags) (cs : List Char) : Option (ClassPart × List Char) :=
  let (level, rest) := f.openClass cs
  f.classFrom? (rest.length + 1) [] level rest

end PatternFlags

end AlbumCatalog
