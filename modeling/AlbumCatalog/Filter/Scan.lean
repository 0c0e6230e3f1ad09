import AlbumCatalog.Filter.Token
import AlbumCatalog.Text.Characters

/-!
# Reading tokens from text

`Cursor.scan` skips blanks and takes the longest lexeme at the cursor. `tokenize` scans up to the
end of the text or the first illegal token. Scanning shortens the rest of the text at every token
but the end, which is why `tokenize` stops.
-/

namespace AlbumCatalog

def isBlank (c : Char) : Bool :=
  c == ' ' || c == '\t'

def isLetter (c : Char) : Bool :=
  ('a' ≤ c && c ≤ 'z') || ('A' ≤ c && c ≤ 'Z')

def isWordChar (c : Char) : Bool :=
  isLetter c || c == '.'

def isQuote (c : Char) : Bool :=
  c == '\'' || c == '"'

/-- A piece of text with the token it stands for. -/
structure Lexeme where
  kind : TokenKind
  literal : String
  source : List Char
  deriving DecidableEq, Repr

namespace Lexeme

/-- A sign has no literal. -/
def sign (kind : TokenKind) (source : List Char) : Lexeme :=
  ⟨kind, "", source⟩

/-- A word is a keyword or else the name of a field. -/
def word (w : List Char) : Lexeme :=
  match TokenKind.keyword? w with
  | some keyword => sign keyword w
  | none => ⟨.field, String.ofList w, w⟩

/-- A string runs to the next quote of the kind that opened it; nothing is escaped in it. -/
def quoted (quote : Char) (rest : List Char) : Lexeme :=
  let contents := rest.takeWhile (· != quote)
  match rest.dropWhile (· != quote) with
  | [] => ⟨.illegal, "didn't find end quote in string", quote :: rest⟩
  | _ :: _ => ⟨.string, String.ofList contents, quote :: contents ++ [quote]⟩

def unexpected (c : Char) : Lexeme :=
  ⟨.illegal, "unexpected character '" ++ c.toString ++ "'", [c]⟩

/-- The sign that a character starts, the longer one where there are two. -/
def symbol : Char → List Char → Lexeme
  | '[', _ => sign .leftBracket ['[']
  | ']', _ => sign .rightBracket [']']
  | ',', _ => sign .comma [',']
  | '=', _ => sign .eq ['=']
  | '!', '=' :: _ => sign .ne ['!', '=']
  | '<', '=' :: _ => sign .le ['<', '=']
  | '<', _ => sign .lt ['<']
  | '>', '=' :: _ => sign .ge ['>', '=']
  | '>', _ => sign .gt ['>']
  | c, _ => unexpected c

/-- The longest lexeme at the start of a text that starts with no blank. -/
def first : List Char → Lexeme
  | [] => sign .endOfLine []
  | c :: rest =>
    if isLetter c then word (c :: rest.takeWhile isWordChar)
    else if isQuote c then quoted c rest
    else symbol c rest

end Lexeme

/-- A place in a text: how many bytes lie before it, and the characters after it. -/
structure Cursor where
  offset : Nat
  rest : List Char
  deriving DecidableEq, Repr

namespace Cursor

def start (text : String) : Cursor :=
  ⟨0, text.toList⟩

/-- The next token, and the place after it. At the end of the text the cursor stays. -/
def scan (c : Cursor) : Token × Cursor :=
  let position := c.offset + byteLength (c.rest.takeWhile isBlank)
  let rest := c.rest.dropWhile isBlank
  let lexeme := Lexeme.first rest
  (⟨position, lexeme.kind, lexeme.literal⟩,
    ⟨position + byteLength lexeme.source, rest.drop lexeme.source.length⟩)

/-- The tokens of so many scans, one after another, whatever they give. -/
def scanTimes : Nat → Cursor → List Token
  | 0, _ => []
  | n + 1, c => c.scan.1 :: scanTimes n c.scan.2

end Cursor

theorem Lexeme.word_source (w : List Char) : (word w).source = w := by
  unfold word
  split <;> rfl

theorem Lexeme.source_ne_nil {s : List Char} (h : (first s).kind ≠ .endOfLine) :
    (first s).source ≠ [] := by
  cases s with
  | nil => simp [first, sign] at h
  | cons c rest =>
    simp only [first]
    split
    · simp [word_source]
    · split
      · simp only [quoted]
        split <;> simp
      · simp only [symbol]
        split <;> simp [sign, unexpected]

/-- A scan that has not reached the end leaves less text than it found. -/
theorem Cursor.scan_rest_length_lt {c : Cursor} (h : c.scan.1.kind ≠ .endOfLine) :
    c.scan.2.rest.length < c.rest.length := by
  have hs := @Lexeme.source_ne_nil (c.rest.dropWhile isBlank) h
  have hd : (c.rest.dropWhile isBlank).length ≤ c.rest.length :=
    (List.dropWhile_sublist isBlank).length_le
  have hn : c.rest.dropWhile isBlank ≠ [] := by
    intro he
    simp [scan, he, Lexeme.first, Lexeme.sign] at h
  have h1 := List.length_pos_iff.2 hs
  have h2 := List.length_pos_iff.2 hn
  simp only [scan, List.length_drop]
  omega

/-- The tokens of a text: those that can be followed by others, and the last one. -/
structure TokenLine where
  body : List Token
  last : Token
  deriving DecidableEq, Repr

def TokenLine.toList (l : TokenLine) : List Token :=
  l.body ++ [l.last]

/-- Scans on from a cursor, with the tokens before it in reverse. -/
def Cursor.collect (c : Cursor) (before : List Token) : TokenLine :=
  if c.scan.1.kind.isFinal then ⟨before.reverse, c.scan.1⟩
  else c.scan.2.collect (c.scan.1 :: before)
termination_by c.rest.length
decreasing_by
  apply Cursor.scan_rest_length_lt
  intro he
  simp_all [TokenKind.isFinal]

/-- All tokens up to the end of the text or the first illegal one. -/
def tokenize (text : String) : TokenLine :=
  (Cursor.start text).collect []

end AlbumCatalog
