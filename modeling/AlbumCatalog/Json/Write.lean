import AlbumCatalog.Text.Number

/-!
# JSON values and their text

Values are written on one line, or spread over lines with an indent of two blanks. The two forms
differ only in the white space between tokens, which `JsonLayout` gives.
-/

namespace AlbumCatalog

inductive Json
  | null
  | bool (b : Bool)
  | number (n : Int)
  | string (s : String)
  | array (items : List Json)
  | object (members : List (String × Json))

def hexDigit (d : Nat) : Char :=
  if d < 10 then Char.ofNat ('0'.toNat + d) else Char.ofNat ('a'.toNat + d - 10)

/-- A character inside a JSON string. Only quotes, backslashes and control characters have
escapes. -/
def jsonChar (c : Char) : List Char :=
  if c = '"' then ['\\', '"']
  else if c = '\\' then ['\\', '\\']
  else if c = '\n' then ['\\', 'n']
  else if c = '\r' then ['\\', 'r']
  else if c = '\t' then ['\\', 't']
  else if c = '\x08' then ['\\', 'b']
  else if c = '\x0c' then ['\\', 'f']
  else if c < ' ' then ['\\', 'u', '0', '0', hexDigit (c.toNat / 16), hexDigit (c.toNat % 16)]
  else [c]

def jsonString (s : String) : List Char :=
  '"' :: s.toList.flatMap jsonChar ++ ['"']

/-- The white space at the start of a line of some depth, and between a key and its value. -/
structure JsonLayout where
  newline : Nat → List Char
  gap : List Char

def JsonLayout.compact : JsonLayout :=
  ⟨fun _ => [], []⟩

def JsonLayout.pretty : JsonLayout :=
  ⟨fun depth => '\n' :: List.replicate (2 * depth) ' ', [' ']⟩

namespace Json

mutual

/-- The text of a value whose line has that depth. -/
def write (l : JsonLayout) (depth : Nat) : Json → List Char
  | null => ['n', 'u', 'l', 'l']
  | bool true => ['t', 'r', 'u', 'e']
  | bool false => ['f', 'a', 'l', 's', 'e']
  | number n => decimalInt n
  | string s => jsonString s
  | array [] => ['[', ']']
  | array (v :: items) =>
    '[' :: l.newline (depth + 1) ++ v.write l (depth + 1) ++ writeItems l (depth + 1) items ++
      l.newline depth ++ [']']
  | object [] => ['\x7b', '\x7d']
  | object ((key, v) :: members) =>
    '\x7b' :: l.newline (depth + 1) ++ jsonString key ++ ':' :: l.gap ++ v.write l (depth + 1) ++
      writeMembers l (depth + 1) members ++ l.newline depth ++ ['\x7d']

/-- The items after the first. -/
def writeItems (l : JsonLayout) (depth : Nat) : List Json → List Char
  | [] => []
  | v :: items => ',' :: l.newline depth ++ v.write l depth ++ writeItems l depth items

/-- The members after the first. -/
def writeMembers (l : JsonLayout) (depth : Nat) : List (String × Json) → List Char
  | [] => []
  | (key, v) :: members =>
    ',' :: l.newline depth ++ jsonString key ++ ':' :: l.gap ++ v.write l depth ++
      writeMembers l depth members

end

/-- The text on one line. -/
def compact (v : Json) : String :=
  String.ofList (v.write .compact 0)

/-- The text over several lines. -/
def pretty (v : Json) : String :=
  String.ofList (v.write .pretty 0)

end Json

end AlbumCatalog
