import AlbumCatalog.Pattern.Bracket
import AlbumCatalog.Text.Number

/-!
# Reading a pattern

A pattern is read from left to right. `OpenGroup` holds what has been read of a group that is not
closed yet, and the groups around it wait in a list, so that deep nesting needs no deep recursion.
Flags hold up to the end of the group they are set in.
-/

namespace AlbumCatalog

/-- A part of a pattern, and how deep what it is written with is nested. A change of flags is a part
that cannot be repeated. -/
structure PatternPart where
  regex : Regex
  depth : Nat
  repeatable : Bool
  deriving DecidableEq, Repr

namespace PatternPart

/-- Parts that follow one another. -/
def inSequence : List PatternPart → PatternPart
  | [part] => part
  | [] => ⟨.empty, 0, true⟩
  | parts => ⟨.sequenceAll (parts.map (·.regex)), depthAbove (parts.map (·.depth)), true⟩

/-- Parts any one of which may be taken. -/
def inChoice : List PatternPart → PatternPart
  | [part] => part
  | parts => ⟨.eitherOf (parts.map (·.regex)), depthAbove (parts.map (·.depth)), true⟩

end PatternPart

/-- A group that is being read: the alternatives before the current one and the parts of that, both
last first. -/
structure OpenGroup where
  captures : Bool
  flags : PatternFlags
  alternatives : List PatternPart
  parts : List PatternPart
  deriving DecidableEq, Repr

namespace OpenGroup

def start (captures : Bool) (flags : PatternFlags) : OpenGroup :=
  ⟨captures, flags, [], []⟩

def add (g : OpenGroup) (part : PatternPart) : OpenGroup :=
  { g with parts := part :: g.parts }

/-- Ends the current alternative. -/
def branch (g : OpenGroup) : OpenGroup :=
  { g with alternatives := PatternPart.inSequence g.parts.reverse :: g.alternatives, parts := [] }

def contents (g : OpenGroup) : PatternPart :=
  PatternPart.inChoice g.branch.alternatives.reverse

/-- The group as a part of the one around it. -/
def close (g : OpenGroup) : PatternPart :=
  let contents := g.contents
  ⟨if g.captures then .captured contents.regex else contents.regex, depthAbove [contents.depth],
    true⟩

/-- Repeats the last part, if there is one that can be. -/
def repeatLast? (g : OpenGroup) (least : Nat) (most : Option Nat) : Option OpenGroup :=
  match g.parts with
  | part :: parts =>
    if part.repeatable then
      let repeated := ⟨.repeated part.regex least most, depthAbove [part.depth], true⟩
      some { g with parts := repeated :: parts }
    else none
  | [] => none

end OpenGroup

/-- The greatest count of a repetition. -/
def countLimit : Nat := 0xFFFFFFFF

/-- A count, which may stand between blanks. -/
def repeatCount? (cs : List Char) : Option Nat :=
  let digits := trimEnd (skipWhite cs)
  if digits ≠ [] ∧ digits.all Char.isDigit ∧ decimalValue digits ≤ countLimit then
    some (decimalValue digits)
  else none

/-- The counts between the braces of a repetition: one, a least one with a comma, or both. -/
def repeatCounts? (text : List Char) : Option (Nat × Option Nat) := do
  let least ← repeatCount? (text.takeWhile (· != ','))
  match text.dropWhile (· != ',') with
  | [] => some (least, some least)
  | [_] => some (least, none)
  | _ :: rest =>
    let most ← repeatCount? rest
    if least ≤ most then some (least, some most) else none

/-- The name of a group up to the bracket that closes it. It starts with a letter or an underscore;
digits, dots and square brackets may follow. -/
def groupName? (cs : List Char) : Option (List Char × List Char) :=
  let name := cs.takeWhile (· != '>')
  match name, cs.dropWhile (· != '>') with
  | first :: others, _ :: rest =>
    let startsName := first = '_' ∨ letterChars.contains first.toNat
    let continues := fun (c : Char) => ['_', '.', '[', ']'].contains c ||
      letterChars.contains c.toNat || numberChars.contains c.toNat
    if startsName ∧ others.all continues then some (name, rest) else none
  | _, _ => none

/-- What stands behind an opening parenthesis. -/
inductive GroupStart
  | group (captures : Bool) (name : Option (List Char)) (flags : PatternFlags)
  | setFlags (flags : PatternFlags)
  deriving DecidableEq, Repr

namespace PatternFlags

/-- Reads the start of a group, or a change of flags with its closing parenthesis. There is no
looking ahead or behind. -/
def groupStart? (f : PatternFlags) (cs : List Char) : Option (GroupStart × List Char) :=
  match f.gap cs with
  | '?' :: '=' :: _ | '?' :: '!' :: _ | '?' :: '<' :: '=' :: _ | '?' :: '<' :: '!' :: _ => none
  | '?' :: 'P' :: '<' :: rest | '?' :: '<' :: rest =>
    (groupName? rest).map fun (name, rest) => (.group true (some name) f, rest)
  | '?' :: rest => do
    let word := rest.takeWhile fun c => c != ':' && c != ')'
    let flags ← f.change? word
    match rest.drop word.length with
    | ':' :: rest => some (.group false none flags, rest)
    | ')' :: rest => if word = [] then none else some (.setFlags flags, rest)
    | _ => none
  | rest => some (.group true none f, rest)

/-- Skips the mark that makes a repetition prefer few turns. -/
def skipLazyMark : List Char → List Char
  | '?' :: rest => rest
  | rest => rest

/-- Reads on to the end of the pattern, with the names of the groups so far. -/
def partsFrom? : Nat → List (List Char) → List OpenGroup → OpenGroup → List Char →
    Option PatternPart
  | 0, _, _, _, _ => none
  | bound + 1, names, outer, group, cs =>
    let f := group.flags
    let on := partsFrom? bound names outer
    match f.gap cs with
    | [] => if outer = [] then some group.contents else none
    | '(' :: rest => do
      let (start, rest) ← f.groupStart? rest
      match start with
      | .setFlags flags => on { group.add ⟨.empty, 0, false⟩ with flags := flags } rest
      | .group captures name flags =>
        let inner := OpenGroup.start captures flags
        match name with
        | none => partsFrom? bound names (group :: outer) inner rest
        | some name =>
          if name ∈ names then none
          else partsFrom? bound (name :: names) (group :: outer) inner rest
    | ')' :: rest =>
      match outer with
      | [] => none
      | parent :: outer => partsFrom? bound names outer (parent.add group.close) rest
    | '|' :: rest => on group.branch rest
    | '[' :: rest => do
      let (part, rest) ← f.class? rest
      on (group.add ⟨.char part.set, part.depth, true⟩) rest
    | '?' :: rest => do on (← group.repeatLast? 0 (some 1)) (skipLazyMark rest)
    | '*' :: rest => do on (← group.repeatLast? 0 none) (skipLazyMark rest)
    | '+' :: rest => do on (← group.repeatLast? 1 none) (skipLazyMark rest)
    | '\x7b' :: rest => do
      let (text, rest) ← f.braced false rest
      let (least, most) ← repeatCounts? text
      on (← group.repeatLast? least most) (skipLazyMark (f.gap rest))
    | '\\' :: rest => do
      let (item, rest) ← f.escape? rest
      on (group.add ⟨← item.regex? f, 0, true⟩) rest
    | '.' :: rest => do on (group.add ⟨.char (← f.dot?), 0, true⟩) rest
    | '^' :: rest => on (group.add ⟨.look f.lineStart, 0, true⟩) rest
    | '$' :: rest => on (group.add ⟨.look f.lineEnd, 0, true⟩) rest
    | c :: rest => do on (group.add ⟨← (PatternItem.literal c false).regex? f, 0, true⟩) rest

end PatternFlags

/-- The whole pattern as one part. -/
def readPattern? (cs : List Char) : Option PatternPart :=
  PatternFlags.partsFrom? (cs.length + 1) [] [] (.start false .start) cs

end AlbumCatalog
