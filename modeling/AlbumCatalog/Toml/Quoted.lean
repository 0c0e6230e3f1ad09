import AlbumCatalog.Text.Number

/-!
# Quoted text in TOML

Text stands between single or double quotes, and three quotes at each end let it go over several
lines. Only between double quotes does a backslash begin an escape. Each reader starts behind the
opening quotes and gives the text and what follows the closing ones.
-/

namespace AlbumCatalog

/-- A character that may stand for itself in text and comments. -/
def isTomlChar (c : Char) : Bool :=
  c == '\t' || (' ' ≤ c && c ≠ '\x7f')

def simpleEscape? : Char → Option Char
  | 'b' => some '\x08'
  | 't' => some '\t'
  | 'n' => some '\n'
  | 'f' => some '\x0c'
  | 'r' => some '\r'
  | '"' => some '"'
  | '\\' => some '\\'
  | _ => none

/-- The character of a number in hexadecimal digits, unless the number is that of a surrogate or
beyond all characters. -/
def numberedChar? (digits : List Char) : Option Char :=
  let n := hexNumber digits
  if digits.all (fun c => (hexValue? c).isSome) && (n < 0xD800 || (0xDFFF < n && n ≤ 0x10FFFF)) then
    some (Char.ofNat n)
  else none

/-- An escape behind its backslash: its character and how many characters it has. -/
def readTomlEscape? : List Char → Option (Char × Nat)
  | 'u' :: a :: b :: c :: d :: _ => (·, 5) <$> numberedChar? [a, b, c, d]
  | 'U' :: a :: b :: c :: d :: e :: f :: g :: h :: _ =>
    (·, 9) <$> numberedChar? [a, b, c, d, e, f, g, h]
  | c :: _ => (·, 1) <$> simpleEscape? c
  | [] => none

/-- Puts a character before a text that was read. -/
def consRead (c : Char) : List Char × List Char → List Char × List Char
  | (text, rest) => (c :: text, rest)

/-- Text to the next double quote. So many of the next characters belong to an escape that was
read already. -/
def readBasic? : Nat → List Char → Option (List Char × List Char)
  | _, [] => none
  | n + 1, _ :: cs => readBasic? n cs
  | 0, '"' :: cs => some ([], cs)
  | 0, '\\' :: cs => do
    let (c, size) ← readTomlEscape? cs
    consRead c <$> readBasic? size cs
  | 0, c :: cs => if isTomlChar c then consRead c <$> readBasic? 0 cs else none

/-- Text to the next single quote. -/
def readLiteral? : List Char → Option (List Char × List Char)
  | [] => none
  | c :: cs =>
    if c = '\'' then some ([], cs)
    else if isTomlChar c then consRead c <$> readLiteral? cs
    else none

/-- Closing quotes in a row, behind the first three: up to two more are part of the text. -/
def closeLong (quote : Char) : List Char → List Char × List Char
  | c :: d :: cs =>
    if c = quote then if d = quote then ([c, d], cs) else ([c], d :: cs) else ([], c :: d :: cs)
  | [c] => if c = quote then ([c], []) else ([], [c])
  | [] => ([], [])

/-- The text behind a line end. -/
def skipNewline? : List Char → Option (List Char)
  | '\n' :: cs => some cs
  | '\r' :: '\n' :: cs => some cs
  | _ => none

def isTomlBlank (c : Char) : Bool :=
  c == ' ' || c == '\t'

/-- Where a reader of long text is: in the text, in an escape with so many characters to go, or
behind a backslash that joins two lines, before or after the line end. -/
inductive LongTextPlace
  | text
  | escape (left : Nat)
  | lineEnd
  | margin

/-- Text to the next three double quotes. A line end is kept as one character. -/
def readLongBasic? : LongTextPlace → List Char → Option (List Char × List Char)
  | _, [] => none
  | .escape (n + 1), _ :: cs => readLongBasic? (.escape n) cs
  | .lineEnd, c :: cs =>
    if c = '\n' then readLongBasic? .margin cs
    else if isTomlBlank c || (c = '\r' && cs.head? = some '\n') then readLongBasic? .lineEnd cs
    else none
  | place, c :: cs =>
    let inMargin := match place with
      | .margin => true
      | _ => false
    if c = '\n' then
      if inMargin then readLongBasic? .margin cs else consRead c <$> readLongBasic? .text cs
    else if c = '\r' then
      if cs.head? = some '\n' then readLongBasic? (if inMargin then .margin else .text) cs else none
    else if inMargin && isTomlBlank c then readLongBasic? .margin cs
    else if c = '\\' then
      match readTomlEscape? cs with
      | some (e, size) => consRead e <$> readLongBasic? (.escape size) cs
      | none => readLongBasic? .lineEnd cs
    else if c = '"' then
      match cs with
      | '"' :: '"' :: rest => some (closeLong '"' rest)
      | _ => consRead c <$> readLongBasic? .text cs
    else if isTomlChar c then consRead c <$> readLongBasic? .text cs
    else none

/-- Text to the next three single quotes. -/
def readLongLiteral? : List Char → Option (List Char × List Char)
  | [] => none
  | c :: cs =>
    if c = '\n' then consRead c <$> readLongLiteral? cs
    else if c = '\r' then if cs.head? = some '\n' then readLongLiteral? cs else none
    else if c = '\'' then
      match cs with
      | '\'' :: '\'' :: rest => some (closeLong '\'' rest)
      | _ => consRead c <$> readLongLiteral? cs
    else if isTomlChar c then consRead c <$> readLongLiteral? cs
    else none

/-- Quoted text on one line, with its quotes. -/
def readShortText? : List Char → Option (String × List Char)
  | '"' :: cs => do
    let (text, rest) ← readBasic? 0 cs
    some (String.ofList text, rest)
  | '\'' :: cs => do
    let (text, rest) ← readLiteral? cs
    some (String.ofList text, rest)
  | _ => none

/-- Quoted text, with its quotes. A line end right behind three opening quotes is no part of it. -/
def readText? (cs : List Char) : Option (String × List Char) :=
  match cs with
  | '"' :: '"' :: '"' :: rest => do
    let (text, rest) ← readLongBasic? .text ((skipNewline? rest).getD rest)
    some (String.ofList text, rest)
  | '\'' :: '\'' :: '\'' :: rest => do
    let (text, rest) ← readLongLiteral? ((skipNewline? rest).getD rest)
    some (String.ofList text, rest)
  | cs => readShortText? cs

end AlbumCatalog
