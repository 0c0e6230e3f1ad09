import AlbumCatalog.Json.Number
import AlbumCatalog.Text.Characters
import AlbumCatalog.Text.Number

/-!
# Reading JSON text

Values are read from the front of the text, each reader for the type that is wanted there, so the
first fault in the order of the text is the one that is reported. Where a text may hold any number
of items, `bound` limits how many are read; the length of the text is always enough.
-/

namespace AlbumCatalog

/-- A reader gives a value and the text behind it. -/
abbrev JsonReader (α : Type) := List Char → Except JsonFault (α × List Char)

def isJsonBlank (c : Char) : Bool :=
  c == ' ' || c == '\n' || c == '\t' || c == '\r'

def skipJsonBlanks (cs : List Char) : List Char :=
  cs.dropWhile isJsonBlank

/-- The text after the given word. -/
def readWord : List Char → List Char → Except JsonFault (List Char)
  | [], cs => .ok cs
  | _ :: _, [] => .error .ended
  | w :: ws, c :: cs => if c = w then readWord ws cs else .error .grammar

/-! ## Strings -/

/-- The number that four hexadecimal digits write. -/
def readHex (cs : List Char) : Except JsonFault Nat :=
  if byteLength (cs.take 4) < 4 then .error .ended
  else
    let digits := cs.take 4
    if digits.all fun c => (hexValue? c).isSome then .ok (hexNumber digits) else .error .grammar

def isHighSurrogate (n : Nat) : Bool :=
  0xD800 ≤ n && n ≤ 0xDBFF

def isLowSurrogate (n : Nat) : Bool :=
  0xDC00 ≤ n && n ≤ 0xDFFF

/-- The low half of a surrogate pair. -/
def readLowSurrogate : List Char → Except JsonFault Nat
  | [] => .error .ended
  | '\\' :: [] => .error .ended
  | '\\' :: 'u' :: cs => do
    let n ← readHex cs
    if isLowSurrogate n then .ok n else .error .grammar
  | _ => .error .grammar

/-- The character that an escape stands for, and how many characters the escape has behind its
backslash. -/
def readEscape : List Char → Except JsonFault (Char × Nat)
  | [] => .error .ended
  | 'u' :: cs => do
    let n ← readHex cs
    if isLowSurrogate n then .error .grammar
    else if isHighSurrogate n then
      let low ← readLowSurrogate (cs.drop 4)
      .ok (Char.ofNat (0x10000 + (n - 0xD800) * 0x400 + (low - 0xDC00)), 11)
    else .ok (Char.ofNat n, 5)
  | c :: _ =>
    match c with
    | '"' => .ok ('"', 1)
    | '\\' => .ok ('\\', 1)
    | '/' => .ok ('/', 1)
    | 'b' => .ok ('\x08', 1)
    | 'f' => .ok ('\x0c', 1)
    | 'n' => .ok ('\n', 1)
    | 'r' => .ok ('\r', 1)
    | 't' => .ok ('\t', 1)
    | _ => .error .grammar

/-- A string behind its opening quote, after characters that are kept last first. -/
def readStringRest (before : List Char) : JsonReader String
  | [] => .error .ended
  | c :: cs =>
    if c = '"' then .ok (String.ofList before.reverse, cs)
    else if c = '\\' then
      match readEscape cs with
      | .ok (d, n) => readStringRest (d :: before) (cs.drop n)
      | .error e => .error e
    else if c < ' ' then .error .grammar
    else readStringRest (c :: before) cs
termination_by cs => cs.length

/-- How many characters an escape has behind its backslash, whatever it stands for. -/
def skipEscape : List Char → Except JsonFault Nat
  | [] => .error .ended
  | c :: cs =>
    if c = 'u' then (fun _ => 5) <$> readHex cs
    else if c ∈ ['"', '\\', '/', 'b', 'f', 'n', 'r', 't'] then .ok 1
    else .error .grammar

/-- The text behind a string that nobody needs. -/
def skipString : List Char → Except JsonFault (List Char)
  | [] => .error .ended
  | c :: cs =>
    if c = '"' then .ok cs
    else if c = '\\' then
      match skipEscape cs with
      | .ok n => skipString (cs.drop n)
      | .error e => .error e
    else if c < ' ' then .error .grammar
    else skipString cs
termination_by cs => cs.length

/-! ## Values of the wrong type -/

/-- The fault of a value that is not of the type wanted. The value is read as far as is needed to
name it, which may show a fault of its own. -/
def unfit (cs : List Char) : JsonFault :=
  let faultOf {α : Type} (r : Except JsonFault α) : JsonFault :=
    match r with
    | .ok _ => .data
    | .error e => e
  match cs with
  | 'n' :: rest => faultOf (readWord ['u', 'l', 'l'] rest)
  | 't' :: rest => faultOf (readWord ['r', 'u', 'e'] rest)
  | 'f' :: rest => faultOf (readWord ['a', 'l', 's', 'e'] rest)
  | '-' :: rest => faultOf (readMagnitude true rest)
  | '"' :: rest => faultOf (readStringRest [] rest)
  | '[' :: _ | '\x7b' :: _ => .data
  | c :: rest => if c.isDigit then faultOf (readMagnitude false (c :: rest)) else .grammar
  | [] => .grammar

/-! ## Simple values -/

def readJsonString (cs : List Char) : Except JsonFault (String × List Char) :=
  match skipJsonBlanks cs with
  | [] => .error .ended
  | '"' :: rest => readStringRest [] rest
  | other => .error (unfit other)

/-- A string that has a meaning of type `α`. -/
def readParsed (parse : String → Option α) (cs : List Char) : Except JsonFault (α × List Char) := do
  let (s, rest) ← readJsonString cs
  match parse s with
  | some a => .ok (a, rest)
  | none => .error .data

/-- An integer that has a property. -/
def readInteger (P : Int → Prop) [DecidablePred P] (cs : List Char) :
    Except JsonFault ({ n : Int // P n } × List Char) :=
  let checked (r : Except JsonFault (JsonNumber × List Char)) :
      Except JsonFault ({ n : Int // P n } × List Char) := do
    match ← r with
    | (.integer n, rest) => if h : P n then .ok (⟨n, h⟩, rest) else .error .data
    | (.real, _) => .error .data
  match skipJsonBlanks cs with
  | [] => .error .ended
  | '-' :: rest => checked (readMagnitude true rest)
  | c :: rest =>
    if c.isDigit then checked (readMagnitude false (c :: rest)) else .error (unfit (c :: rest))

/-! ## Lists -/

/-- The start of the next item of a list, or nothing where the list closes. -/
def nextItem (first : Bool) (cs : List Char) : Except JsonFault (Option (List Char)) :=
  match skipJsonBlanks cs with
  | [] => .error .ended
  | c :: rest =>
    if c = ']' then .ok none
    else if first then .ok (some (c :: rest))
    else if c = ',' then
      match skipJsonBlanks rest with
      | [] => .error .ended
      | ']' :: _ => .error .grammar
      | more => .ok (some more)
    else .error .grammar

/-- The text behind the bracket that closes a list. -/
def closeList (cs : List Char) : Except JsonFault (List Char) :=
  match skipJsonBlanks cs with
  | [] => .error .ended
  | ']' :: rest => .ok rest
  | _ :: _ => .error .grammar

/-- The items of a list behind those that are kept last first. -/
def readItems (item : JsonReader α) : Nat → List α → JsonReader (List α)
  | 0, _, _ => .error .ended
  | bound + 1, before, cs => do
    match ← nextItem before.isEmpty cs with
    | none => .ok (before.reverse, cs)
    | some cs =>
      let (a, rest) ← item cs
      readItems item bound (a :: before) rest

def readList (bound : Nat) (item : JsonReader α) (cs : List Char) :
    Except JsonFault (List α × List Char) :=
  match skipJsonBlanks cs with
  | [] => .error .ended
  | '[' :: rest => do
    let (items, rest) ← readItems item bound [] rest
    let rest ← closeList rest
    .ok (items, rest)
  | other => .error (unfit other)

/-- An item that a list must have. -/
def requiredItem (first : Bool) (item : JsonReader α) (cs : List Char) :
    Except JsonFault (α × List Char) := do
  match ← nextItem first cs with
  | some cs => item cs
  | none => .error .data

/-- An item of a list, or a value for it where the list closes before. -/
def optionalItem (missing : α) (item : JsonReader α) (cs : List Char) :
    Except JsonFault (α × List Char) := do
  match ← nextItem false cs with
  | some cs => item cs
  | none => .ok (missing, cs)

/-! ## Objects -/

/-- The start of the next key of an object, or nothing where the object closes. -/
def nextKey (first : Bool) (cs : List Char) : Except JsonFault (Option (List Char)) :=
  match skipJsonBlanks cs with
  | [] => .error .ended
  | c :: rest =>
    if c = '\x7d' then .ok none
    else if first then if c = '"' then .ok (some rest) else .error .grammar
    else if c = ',' then
      match skipJsonBlanks rest with
      | [] => .error .ended
      | '"' :: more => .ok (some more)
      | _ :: _ => .error .grammar
    else .error .grammar

/-- The text behind the brace that closes an object. -/
def closeObject (cs : List Char) : Except JsonFault (List Char) :=
  match skipJsonBlanks cs with
  | [] => .error .ended
  | '\x7d' :: rest => .ok rest
  | _ :: _ => .error .grammar

/-- The text behind the colon after a key. -/
def readColon (cs : List Char) : Except JsonFault (List Char) :=
  match skipJsonBlanks cs with
  | [] => .error .ended
  | ':' :: rest => .ok rest
  | _ :: _ => .error .grammar

/-- Where a value stands that is being skipped. -/
inductive Enclosing
  | list
  | object
  deriving DecidableEq, Repr

mutual

/-- The text behind a value that nobody needs, inside the lists and objects that are open. -/
def skipValue : Nat → List Enclosing → List Char → Except JsonFault (List Char)
  | 0, _, _ => .error .ended
  | bound + 1, open', cs =>
    match skipJsonBlanks cs with
    | [] => .error .ended
    | 'n' :: rest => do skipAfter bound open' (← readWord ['u', 'l', 'l'] rest)
    | 't' :: rest => do skipAfter bound open' (← readWord ['r', 'u', 'e'] rest)
    | 'f' :: rest => do skipAfter bound open' (← readWord ['a', 'l', 's', 'e'] rest)
    | '-' :: rest => do skipAfter bound open' (← skipMagnitude rest)
    | '"' :: rest => do skipAfter bound open' (← skipString rest)
    | '[' :: rest =>
      match skipJsonBlanks rest with
      | [] => .error .ended
      | ']' :: more => skipAfter bound open' more
      | more => skipValue bound (.list :: open') more
    | '\x7b' :: rest =>
      match skipJsonBlanks rest with
      | [] => .error .ended
      | '\x7d' :: more => skipAfter bound open' more
      | more => skipMember bound (.object :: open') more
    | c :: rest =>
      if c.isDigit then do skipAfter bound open' (← skipMagnitude (c :: rest))
      else .error .grammar

/-- Goes on behind a value, in the innermost list or object that is open. -/
def skipAfter : Nat → List Enclosing → List Char → Except JsonFault (List Char)
  | _, [], cs => .ok cs
  | 0, _ :: _, _ => .error .ended
  | bound + 1, innermost :: outer, cs =>
    match skipJsonBlanks cs, innermost with
    | [], _ => .error .ended
    | ',' :: rest, .list => skipValue bound (innermost :: outer) rest
    | ',' :: rest, .object => skipMember bound (innermost :: outer) rest
    | ']' :: rest, .list => skipAfter bound outer rest
    | '\x7d' :: rest, .object => skipAfter bound outer rest
    | _ :: _, _ => .error .grammar

/-- Skips a key and its value. -/
def skipMember : Nat → List Enclosing → List Char → Except JsonFault (List Char)
  | 0, _, _ => .error .ended
  | bound + 1, open', cs =>
    match skipJsonBlanks cs with
    | [] => .error .ended
    | '"' :: rest => do skipValue bound open' (← readColon (← skipString rest))
    | _ :: _ => .error .grammar

end

/-- The members of an object, each taken into what has been gathered from those before it. -/
def readMembers (member : σ → String → JsonReader σ) : Nat → Bool → σ → JsonReader σ
  | 0, _, _, _ => .error .ended
  | bound + 1, first, gathered, cs => do
    match ← nextKey first cs with
    | none => .ok (gathered, cs)
    | some cs =>
      let (key, rest) ← readStringRest [] cs
      let (gathered, rest) ← member gathered key rest
      readMembers member bound false gathered rest

/-- Reads the value of a key that must not have come before. -/
def fillSlot (slot : Option α) (value : JsonReader α) (cs : List Char) :
    Except JsonFault (Option α × List Char) := do
  if slot.isSome then .error .data
  else
    let (a, rest) ← value (← readColon cs)
    .ok (some a, rest)

/-- Skips the value of a key that means nothing. -/
def skipSlot (bound : Nat) (cs : List Char) : Except JsonFault (List Char) := do
  skipValue bound [] (← readColon cs)

/-- A value that must have come. -/
def demand : Option α → Except JsonFault α
  | some a => .ok a
  | none => .error .data

/-- A record, written as an object or as the list of its fields in order. -/
def readRecord (bound : Nat) (fields : JsonReader α) (member : σ → String → JsonReader σ)
    (start : σ) (finish : σ → Except JsonFault α) (cs : List Char) :
    Except JsonFault (α × List Char) :=
  match skipJsonBlanks cs with
  | [] => .error .ended
  | '[' :: rest => do
    let (a, rest) ← fields rest
    let rest ← closeList rest
    .ok (a, rest)
  | '\x7b' :: rest => do
    let (gathered, rest) ← readMembers member bound true start rest
    let a ← finish gathered
    let rest ← closeObject rest
    .ok (a, rest)
  | other => .error (unfit other)

/-- One of the named values: its name, or an object with its name and nothing. -/
def readNamed (parse : String → Option α) (cs : List Char) : Except JsonFault (α × List Char) :=
  match skipJsonBlanks cs with
  | [] => .error .ended
  | '"' :: rest => readParsed parse ('"' :: rest)
  | '\x7b' :: rest => do
    let (a, rest) ← readParsed parse rest
    match skipJsonBlanks (← readColon rest) with
    | [] => .error .ended
    | 'n' :: more =>
      match skipJsonBlanks (← readWord ['u', 'l', 'l'] more) with
      | [] => .error .ended
      | '\x7d' :: rest => .ok (a, rest)
      | _ :: _ => .error .grammar
    | other => .error (unfit other)
  | _ :: _ => .error .grammar

/-- A text that holds one value and nothing else. -/
def readDocument (value : Nat → JsonReader α) (text : String) : Except JsonFault α := do
  let cs := text.toList
  let (a, rest) ← value (cs.length + 1) cs
  match skipJsonBlanks rest with
  | [] => .ok a
  | _ :: _ => .error .grammar

end AlbumCatalog
