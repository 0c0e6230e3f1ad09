import AlbumCatalog.Toml.Moment
import AlbumCatalog.Toml.Number
import AlbumCatalog.Toml.Quoted

/-!
# Reading TOML text

A text is a list of lines, each of which sets a key, names a table, or says nothing. Only a value
can go over several lines. Where a text may hold any number of items, a bound limits how many are
read; the length of the text is always enough.
-/

namespace AlbumCatalog

/-- A reader gives a value and the text behind it. -/
abbrev TomlReader (α : Type) := List Char → Option (α × List Char)

def skipTomlBlanks (cs : List Char) : List Char :=
  cs.dropWhile isTomlBlank

/-! ## Keys -/

def isBareKeyChar (c : Char) : Bool :=
  c.isAlphanum || c == '-' || c == '_'

def readKey? (cs : List Char) : Option (String × List Char) :=
  match cs with
  | '"' :: _ | '\'' :: _ => readShortText? cs
  | cs =>
    let key := cs.takeWhile isBareKeyChar
    if key.isEmpty then none else some (String.ofList key, cs.dropWhile isBareKeyChar)

/-- The keys on the way to a table or value, and its own key. -/
structure TomlPath where
  above : List String
  key : String

/-- At most so many keys with points between them. -/
def readKeys? : Nat → TomlReader TomlPath
  | 0, _ => none
  | n + 1, cs => do
    let (key, cs) ← readKey? (skipTomlBlanks cs)
    match skipTomlBlanks cs with
    | '.' :: cs => do
      let (path, cs) ← readKeys? n cs
      some ({ path with above := key :: path.above }, cs)
    | cs => some (⟨[], key⟩, cs)

/-- How deep tables and arrays may go. -/
def deepestToml : Nat := 79

def readPath? : TomlReader TomlPath :=
  readKeys? deepestToml

/-! ## Values -/

def isTomlWordChar (c : Char) : Bool :=
  c.isAlphanum || c == '+' || c == '-' || c == '_' || c == '.' || c == ':'

def wordValue? (word : List Char) : Option Toml :=
  if word = ['t', 'r', 'u', 'e'] then some (.boolean true)
  else if word = ['f', 'a', 'l', 's', 'e'] then some (.boolean false)
  else if isMoment word then some .moment
  else readInteger? word <|> readReal? word

/-- The time of day that may follow a date behind a blank, and the text behind it. -/
def skipTimeAfterDay (cs : List Char) : List Char :=
  match cs with
  | ' ' :: more =>
    if isTimeWithOffset (more.takeWhile isTomlWordChar) then more.dropWhile isTomlWordChar else cs
  | cs => cs

/-- A value that holds no other values. -/
def readScalar? (cs : List Char) : Option (Toml × List Char) :=
  match cs with
  | '"' :: _ | '\'' :: _ => do
    let (s, cs) ← readText? cs
    some (.string s, cs)
  | cs => do
    let word := cs.takeWhile isTomlWordChar
    let rest := cs.dropWhile isTomlWordChar
    some (← wordValue? word, if isDay word then skipTimeAfterDay rest else rest)

/-- The text behind blanks, line ends and comments. The reader may start inside a comment. -/
def skipTomlGap : Bool → List Char → List Char
  | _, [] => []
  | inComment, c :: cs =>
    if c = '\n' then skipTomlGap false cs
    else if c = '\r' ∧ cs.head? = some '\n' then skipTomlGap inComment cs
    else if inComment then if isTomlChar c then skipTomlGap true cs else c :: cs
    else if isTomlBlank c then skipTomlGap false cs
    else if c = '#' then skipTomlGap true cs
    else c :: cs

/-- Items to the closing bracket. A comma may follow the last one. -/
def readTomlItems? (item : TomlReader Toml) : Nat → TomlReader (List Toml)
  | 0, _ => none
  | n + 1, cs =>
    match skipTomlGap false cs with
    | ']' :: cs => some ([], cs)
    | cs => do
      let (v, cs) ← item cs
      match skipTomlGap false cs with
      | ',' :: cs => do
        let (items, cs) ← readTomlItems? item n cs
        some (v :: items, cs)
      | ']' :: cs => some ([v], cs)
      | _ => none

/-- A key and its value. -/
def readTomlSetting? (item : TomlReader Toml) (cs : List Char) :
    Option ((TomlPath × Toml) × List Char) := do
  let (path, cs) ← readPath? cs
  let (v, cs) ← item (skipTomlBlanks (← skipMark? '=' cs))
  some ((path, v), cs)

/-- Settings to the closing brace, added to those before them. -/
def readTomlPairs? (item : TomlReader Toml) : Nat → TomlMembers → TomlReader TomlMembers
  | 0, _, _ => none
  | n + 1, ms, cs => do
    let ((path, v), cs) ← readTomlSetting? item cs
    let ms ← ms.addSetting .inBraces path.above path.key v
    match skipTomlBlanks cs with
    | ',' :: cs => readTomlPairs? item n ms cs
    | '\x7d' :: cs => some (ms, cs)
    | _ => none

/-- A value in which arrays and tables go at most so deep. -/
def readTomlValue? : Nat → TomlReader Toml
  | n + 1, '[' :: cs => do
    let (items, cs) ← readTomlItems? (readTomlValue? n) (cs.length + 1) cs
    some (.array items, cs)
  | n + 1, '\x7b' :: cs =>
    match skipTomlBlanks cs with
    | '\x7d' :: cs => some (.table .braces [], cs)
    | cs => do
      let (ms, cs) ← readTomlPairs? (readTomlValue? n) (cs.length + 1) [] cs
      some (.table .braces ms, cs)
  | _, cs => readScalar? cs

/-! ## Lines -/

inductive TomlLine
  | setting (path : TomlPath) (v : Toml)
  | header (path : TomlPath) (double : Bool)

/-- The text behind the rest of a line, which may hold a comment. -/
def endLine? (cs : List Char) : Option (List Char) :=
  let cs :=
    match skipTomlBlanks cs with
    | '#' :: comment => comment.dropWhile isTomlChar
    | cs => cs
  if cs.isEmpty then some [] else skipNewline? cs

/-- A line that says something. -/
def readTomlLine? (cs : List Char) : Option (TomlLine × List Char) :=
  match cs with
  | '[' :: '[' :: cs => do
    let (path, cs) ← readPath? cs
    some (.header path true, ← endLine? (← skipMark? ']' (← skipMark? ']' cs)))
  | '[' :: cs => do
    let (path, cs) ← readPath? cs
    some (.header path false, ← endLine? (← skipMark? ']' cs))
  | cs => do
    let ((path, v), cs) ← readTomlSetting? (readTomlValue? deepestToml) cs
    some (.setting path v, ← endLine? cs)

/-- At most so many lines, without those that say nothing. -/
def readTomlLines? : Nat → List Char → Option (List TomlLine)
  | 0, _ => none
  | n + 1, cs =>
    match skipTomlBlanks cs with
    | [] => some []
    | c :: cs =>
      if c = '#' ∨ c = '\n' ∨ c = '\r' then do readTomlLines? n (← endLine? (c :: cs))
      else do
        let (line, cs) ← readTomlLine? (c :: cs)
        (line :: ·) <$> readTomlLines? n cs

/-! ## Tables -/

/-- Settings that belong to one table. -/
abbrev TomlSettings := List (TomlPath × Toml)

/-- The settings before the first header, and each header with the settings behind it. -/
def groupTomlLines : List TomlLine → TomlSettings × List ((TomlPath × Bool) × TomlSettings)
  | [] => ([], [])
  | .setting path v :: lines =>
    let (own, sections) := groupTomlLines lines
    ((path, v) :: own, sections)
  | .header path double :: lines =>
    let (own, sections) := groupTomlLines lines
    ([], ((path, double), own) :: sections)

def addSettings (settings : TomlSettings) (ms : TomlMembers) : Option TomlMembers :=
  settings.foldlM (fun ms (path, v) => ms.addSetting .byKeys path.above path.key v) ms

def addSection (ms : TomlMembers) (part : (TomlPath × Bool) × TomlSettings) :
    Option TomlMembers :=
  let ((path, double), settings) := part
  if double then ms.addToTables path.above path.key (addSettings settings)
  else ms.addTable path.above path.key (addSettings settings)

def tomlOfLines? (lines : List TomlLine) : Option TomlMembers := do
  let (own, sections) := groupTomlLines lines
  sections.foldlM addSection (← addSettings own [])

/-- The table of a text, which may begin with a byte order mark. -/
def tomlOfText? (text : String) : Option TomlMembers := do
  let cs :=
    match text.toList with
    | '\uFEFF' :: cs => cs
    | cs => cs
  tomlOfLines? (← readTomlLines? (cs.length + 1) cs)

end AlbumCatalog
