import AlbumCatalog.Proofs.Joining
import Mathlib.Data.Nat.Find

/-!
# Scanning on bytes

A text can be scanned on its bytes: one byte tells what begins at a place, the place moves on by so
many bytes, and the text between two places is cut out. A cut inside a character is impossible, so
this scanner may fail. It never does: from any place that it reaches it finds the token and the next
place that the scanner on characters finds.
-/

namespace AlbumCatalog

/-- The text between two places, unless one of them is inside a character. -/
def sliceText? (text : String) (start stop : Nat) : Option String :=
  if h : (⟨start⟩ : String.Pos.Raw).IsValid text ∧ (⟨stop⟩ : String.Pos.Raw).IsValid text then
    if start ≤ stop then some (text.extract (text.pos _ h.1) (text.pos _ h.2)) else none
  else none

/-- A place in the bytes of a text. -/
structure ByteCursor where
  text : String
  position : Nat

namespace ByteCursor

/-- The bytes behind the place. -/
def bytes (c : ByteCursor) : List UInt8 :=
  c.text.toUTF8.data.toList.drop c.position

def advance (c : ByteCursor) (n : Nat) : ByteCursor :=
  { c with position := c.position + n }

/-- The character that has the number of a byte. -/
def charOfByte (b : UInt8) : Char :=
  Char.ofNat b.toNat

def peek? (c : ByteCursor) : Option Char :=
  c.bytes.head?.map charOfByte

/-- Steps over the bytes with a property, one after another. -/
def skip (c : ByteCursor) (p : Char → Bool) : ByteCursor :=
  c.advance (c.bytes.takeWhile fun b => p (charOfByte b)).length

/-- The cursor stands at a letter. -/
def readWord? (c : ByteCursor) : Option (Token × ByteCursor) := do
  let stop := c.skip isWordChar
  let word ← sliceText? c.text c.position stop.position
  let lexeme := Lexeme.word word.toList
  some (⟨c.position, lexeme.kind, lexeme.literal⟩, stop)

/-- The cursor stands at a quote. -/
def readQuoted? (c : ByteCursor) (quote : Char) : Option (Token × ByteCursor) :=
  let inside := c.advance 1
  let stop := inside.skip (· != quote)
  match stop.peek? with
  | none => some (⟨c.position, .illegal, "didn't find end quote in string"⟩, stop)
  | some _ => do
    let contents ← sliceText? c.text inside.position stop.position
    some (⟨c.position, .string, contents⟩, stop.advance 1)

/-- Steps over one character, whatever it is. -/
def readUnexpected? (c : ByteCursor) : Option (Token × ByteCursor) := do
  let rest ← sliceText? c.text c.position c.text.utf8ByteSize
  let char := rest.toList.head?.getD '\x00'
  some (⟨c.position, .illegal, "unexpected character '" ++ char.toString ++ "'"⟩,
    c.advance char.utf8Size)

/-- The cursor stands at a byte that begins no word and no string. -/
def readSymbol? (c : ByteCursor) (first : Char) : Option (Token × ByteCursor) :=
  let sign (kind : TokenKind) (n : Nat) := some (⟨c.position, kind, ""⟩, c.advance n)
  let equalsNext := (c.advance 1).peek? = some '='
  match first with
  | '[' => sign .leftBracket 1
  | ']' => sign .rightBracket 1
  | ',' => sign .comma 1
  | '=' => sign .eq 1
  | '!' =>
    if equalsNext then sign .ne 2
    else some (⟨c.position, .illegal, "unexpected character '!'"⟩, c.advance 1)
  | '<' => if equalsNext then sign .le 2 else sign .lt 1
  | '>' => if equalsNext then sign .ge 2 else sign .gt 1
  | _ => c.readUnexpected?

/-- The cursor stands behind the blanks. -/
def readLexeme? (c : ByteCursor) : Option (Token × ByteCursor) :=
  match c.peek? with
  | none => some (⟨c.position, .endOfLine, ""⟩, c)
  | some first =>
    if isLetter first then c.readWord?
    else if isQuote first then c.readQuoted? first
    else c.readSymbol? first

def scan? (c : ByteCursor) : Option (Token × ByteCursor) :=
  (c.skip isBlank).readLexeme?

end ByteCursor

/-! ### Characters and their bytes -/

/-- The property is the same for all characters beyond the first 128. -/
def OnlyAsksAscii (p : Char → Bool) : Prop :=
  ∃ v, ∀ c : Char, 128 ≤ c.toNat → p c = v

lemma OnlyAsksAscii.congr {p : Char → Bool} (hp : OnlyAsksAscii p) {b d : Char}
    (h : b = d ∨ 128 ≤ b.toNat ∧ 128 ≤ d.toNat) : p b = p d := by
  obtain ⟨v, hv⟩ := hp
  rcases h with rfl | ⟨hb, hd⟩
  · rfl
  · rw [hv b hb, hv d hd]

lemma utf8EncodeChar_of_ascii {c : Char} (h : c.toNat < 128) :
    String.utf8EncodeChar c = [UInt8.ofNat c.toNat] := by
  have hval : c.val.toNat ≤ 0x7f := Nat.lt_succ_iff.mp h
  simp only [String.utf8EncodeChar]
  rw [if_pos hval]
  rfl

lemma le_of_mem_utf8EncodeChar {c : Char} {b : UInt8} (h : 128 ≤ c.toNat)
    (hb : b ∈ String.utf8EncodeChar c) : 128 ≤ b.toNat := by
  have hval : ¬ c.val.toNat ≤ 0x7f := Nat.not_le.mpr h
  simp only [String.utf8EncodeChar, if_neg hval] at hb
  have hbyte : ∀ n, 128 ≤ n → n < 256 → 128 ≤ (UInt8.ofNat n).toNat := by
    intro n hn hlt
    rwa [UInt8.toNat_ofNat_of_lt' hlt]
  split at hb
  · simp only [List.mem_cons, List.not_mem_nil, or_false] at hb
    rcases hb with rfl | rfl <;> exact hbyte _ (by omega) (by omega)
  split at hb
  · simp only [List.mem_cons, List.not_mem_nil, or_false] at hb
    rcases hb with rfl | rfl | rfl <;> exact hbyte _ (by omega) (by omega)
  · simp only [List.mem_cons, List.not_mem_nil, or_false] at hb
    rcases hb with rfl | rfl | rfl | rfl <;> exact hbyte _ (by omega) (by omega)

lemma charOfByte_of_ascii {c : Char} (h : c.toNat < 128) :
    ByteCursor.charOfByte (UInt8.ofNat c.toNat) = c := by
  rw [ByteCursor.charOfByte, UInt8.toNat_ofNat_of_lt' (by simp [UInt8.size]; omega), Char.ofNat_toNat]

lemma le_charOfByte {b : UInt8} (h : 128 ≤ b.toNat) : 128 ≤ (ByteCursor.charOfByte b).toNat := by
  have hlt := b.toNat_lt
  have hvalid : b.toNat.isValidChar := .inl (by omega)
  rw [ByteCursor.charOfByte, Char.ofNat, dif_pos hvalid]
  exact h

/-- The bytes of some characters. -/
def bytesOf (cs : List Char) : List UInt8 :=
  cs.flatMap String.utf8EncodeChar

lemma length_bytesOf (cs : List Char) : (bytesOf cs).length = byteLength cs := by
  induction cs with
  | nil => rfl
  | cons c cs ih =>
    rw [bytesOf, List.flatMap_cons, List.length_append, String.length_utf8EncodeChar]
    rw [byteLength_cons, ← ih, bytesOf]

lemma toList_toUTF8_ofList (cs : List Char) :
    (String.ofList cs).toUTF8.data.toList = bytesOf cs := by
  rw [String.toUTF8_eq_toByteArray, String.toByteArray_ofList, List.utf8Encode,
    List.data_toByteArray]
  rfl

lemma bytesOf_cons (c : Char) (cs : List Char) :
    bytesOf (c :: cs) = String.utf8EncodeChar c ++ bytesOf cs := rfl

/-- A property that only asks for ASCII may be asked of bytes instead of characters. -/
lemma takeWhile_bytesOf {p : Char → Bool} (hp : OnlyAsksAscii p) (cs : List Char) :
    ((bytesOf cs).takeWhile fun b => p (ByteCursor.charOfByte b)) = bytesOf (cs.takeWhile p) := by
  obtain ⟨v, hv⟩ := hp
  induction cs with
  | nil => rfl
  | cons c cs ih =>
    rw [bytesOf_cons]
    have hbytes : ∀ b ∈ String.utf8EncodeChar c, p (ByteCursor.charOfByte b) = p c := by
      intro b hb
      rcases Nat.lt_or_ge c.toNat 128 with hc | hc
      · rw [utf8EncodeChar_of_ascii hc, List.mem_singleton] at hb
        rw [hb, charOfByte_of_ascii hc]
      · rw [hv c hc, hv _ (le_charOfByte (le_of_mem_utf8EncodeChar hc hb))]
    cases hpc : p c with
    | true =>
      rw [List.takeWhile_append_of_pos fun b hb => (hbytes b hb).trans hpc, ih,
        List.takeWhile_cons_of_pos hpc, bytesOf_cons]
    | false =>
      rw [List.takeWhile_cons_of_neg (by simp [hpc])]
      obtain ⟨b, bs, hb⟩ := List.exists_cons_of_ne_nil (String.utf8EncodeChar_ne_nil (c := c))
      have hfirst := hbytes b (by rw [hb]; exact List.mem_cons_self)
      rw [hb, List.cons_append, List.takeWhile_cons_of_neg (by simp [hfirst, hpc])]
      rfl

namespace ByteCursor

variable {c : ByteCursor} {pre rest : List Char}

/-- The place is on a boundary of characters of the text, behind some and before the others. -/
structure Parts (c : ByteCursor) (pre rest : List Char) : Prop where
  text : c.text = String.ofList (pre ++ rest)
  position : c.position = byteLength pre

lemma Parts.bytes (h : c.Parts pre rest) : c.bytes = bytesOf rest := by
  have happend : bytesOf (pre ++ rest) = bytesOf pre ++ bytesOf rest := List.flatMap_append
  rw [ByteCursor.bytes, h.text, toList_toUTF8_ofList, h.position, ← length_bytesOf, happend,
    List.drop_left]

lemma Parts.advance {w : List Char} (h : c.Parts pre (w ++ rest)) :
    (c.advance (byteLength w)).Parts (pre ++ w) rest := by
  refine ⟨?_, ?_⟩
  · rw [List.append_assoc]
    exact h.text
  · rw [byteLength_append, ← h.position]
    rfl

lemma Parts.skip {p : Char → Bool} (hp : OnlyAsksAscii p) (h : c.Parts pre rest) :
    c.skip p = c.advance (byteLength (rest.takeWhile p)) := by
  rw [ByteCursor.skip, h.bytes, takeWhile_bytesOf hp, length_bytesOf]

lemma Parts.peek?_nil (h : c.Parts pre []) : c.peek? = none := by
  rw [peek?, h.bytes]
  rfl

/-- A byte at a place tells which ASCII character stands there, or that none does. -/
lemma Parts.peek?_cons {d : Char} (h : c.Parts pre (d :: rest)) :
    ∃ b, c.peek? = some b ∧ (b = d ∨ 128 ≤ b.toNat ∧ 128 ≤ d.toNat) := by
  rw [peek?, h.bytes, bytesOf_cons]
  rcases Nat.lt_or_ge d.toNat 128 with hd | hd
  · rw [utf8EncodeChar_of_ascii hd]
    exact ⟨_, rfl, .inl (charOfByte_of_ascii hd)⟩
  · obtain ⟨b, bs, hb⟩ := List.exists_cons_of_ne_nil (String.utf8EncodeChar_ne_nil (c := d))
    have hlarge := le_of_mem_utf8EncodeChar hd (by rw [hb]; exact List.mem_cons_self)
    rw [hb]
    exact ⟨_, rfl, .inr ⟨le_charOfByte hlarge, hd⟩⟩

end ByteCursor

lemma isValid_byteLength (pre rest : List Char) :
    (⟨byteLength pre⟩ : String.Pos.Raw).IsValid (String.ofList (pre ++ rest)) := by
  rw [String.Pos.Raw.isValid_ofList]
  exact ⟨pre.length, by rw [List.take_left, utf8ByteSize_ofList]⟩

/-- Text is cut out at boundaries of characters. -/
lemma sliceText?_ofList (pre w rest : List Char) :
    sliceText? (String.ofList (pre ++ (w ++ rest))) (byteLength pre)
      (byteLength pre + byteLength w) = some (String.ofList w) := by
  have hstart := isValid_byteLength pre (w ++ rest)
  have hstop := isValid_byteLength (pre ++ w) rest
  rw [List.append_assoc, byteLength_append] at hstop
  rw [sliceText?, dif_pos ⟨hstart, hstop⟩, if_pos (Nat.le_add_right _ _), Option.some.injEq]
  apply String.toByteArray_inj.mp
  simp only [String.toByteArray_extract, String.offset_pos, String.toByteArray_ofList,
    List.utf8Encode_append]
  have hsize : ∀ cs : List Char, cs.utf8Encode.size = byteLength cs := by
    intro cs
    rw [← String.toByteArray_ofList, String.size_toByteArray, utf8ByteSize_ofList]
  rw [← hsize pre, ← hsize w]
  exact (ByteArray.extract_append_size_add (i := 0)).trans (ByteArray.extract_append_eq_left rfl)

namespace ByteCursor

variable {c : ByteCursor} {pre rest : List Char}

lemma ne_of_ge {c d : Char} (hc : 128 ≤ c.toNat) (hd : d.toNat < 128) : c ≠ d := by
  rintro rfl
  omega

lemma isLetter_of_ge {d : Char} (h : 128 ≤ d.toNat) : isLetter d = false := by
  have hnot : ∀ e : Char, e.toNat < 128 → ¬ d ≤ e := by
    intro e he hle
    have hle : d.toNat ≤ e.toNat := hle
    omega
  simp [isLetter, hnot 'z' (by decide), hnot 'Z' (by decide)]

lemma isQuote_of_ge {d : Char} (h : 128 ≤ d.toNat) : isQuote d = false := by
  simp [isQuote, ne_of_ge h (d := '\'') (by decide), ne_of_ge h (d := '"') (by decide)]

lemma ascii_of_isQuote {q : Char} (hq : isQuote q) : q.toNat < 128 := by
  by_contra h
  rw [isQuote_of_ge (Nat.not_lt.mp h)] at hq
  cases hq

lemma onlyAsksAscii_isBlank : OnlyAsksAscii isBlank := by
  refine ⟨false, fun d h => ?_⟩
  simp [isBlank, ne_of_ge h (d := ' ') (by decide), ne_of_ge h (d := '\t') (by decide)]

lemma onlyAsksAscii_isWordChar : OnlyAsksAscii isWordChar := by
  refine ⟨false, fun d h => ?_⟩
  simp [isWordChar, isLetter_of_ge h, ne_of_ge h (d := '.') (by decide)]

lemma onlyAsksAscii_ne {q : Char} (hq : isQuote q) : OnlyAsksAscii (· != q) :=
  ⟨true, fun _ h => by simpa using ne_of_ge h (ascii_of_isQuote hq)⟩

lemma utf8Size_of_ascii {d : Char} (h : d.toNat < 128) : d.utf8Size = 1 := by
  rw [← String.length_utf8EncodeChar, utf8EncodeChar_of_ascii h]
  rfl

lemma Parts.sliceText?_eq {w : List Char} (h : c.Parts pre (w ++ rest)) :
    sliceText? c.text c.position (c.position + byteLength w) = some (String.ofList w) := by
  rw [h.text, h.position]
  exact sliceText?_ofList pre w rest

lemma Parts.sliceText?_end (h : c.Parts pre rest) :
    sliceText? c.text c.position (c.position + byteLength rest) = some (String.ofList rest) := by
  rw [← List.append_nil rest] at h
  exact h.sliceText?_eq

/-- The lexeme at a place, read there. -/
def take (c : ByteCursor) (l : Lexeme) : Token × ByteCursor :=
  (⟨c.position, l.kind, l.literal⟩, c.advance (byteLength l.source))

lemma Parts.readWord? {d : Char} (h : c.Parts pre (d :: rest)) (hd : isLetter d) :
    c.readWord? = some (c.take (Lexeme.first (d :: rest))) := by
  have htake : (d :: rest).takeWhile isWordChar = d :: rest.takeWhile isWordChar :=
    List.takeWhile_cons_of_pos (isWordChar_of_isLetter hd)
  have hsplit := List.takeWhile_append_dropWhile (p := isWordChar) (l := d :: rest)
  rw [htake] at hsplit
  have hslice := Parts.sliceText?_eq (hsplit ▸ h)
  rw [Lexeme.first_cons_of_isLetter hd, ByteCursor.readWord?, h.skip onlyAsksAscii_isWordChar,
    htake]
  simp only [ByteCursor.advance, hslice, take, Lexeme.word_source]
  simp

lemma Parts.step {d : Char} (h : c.Parts pre (d :: rest)) (hd : d.toNat < 128) :
    (c.advance 1).Parts (pre ++ [d]) rest := by
  have hstep := Parts.advance (w := [d]) h
  rwa [byteLength_cons, utf8Size_of_ascii hd] at hstep

lemma Parts.readQuoted? {q : Char} (h : c.Parts pre (q :: rest)) (hq : isQuote q) :
    c.readQuoted? q = some (c.take (Lexeme.first (q :: rest))) := by
  have hsize := utf8Size_of_ascii (ascii_of_isQuote hq)
  have hinside := h.step (ascii_of_isQuote hq)
  have hsplit := List.takeWhile_append_dropWhile (p := (· != q)) (l := rest)
  rw [← hsplit] at hinside
  have hslice := hinside.sliceText?_eq
  have hstop := hinside.advance
  rw [hsplit] at hinside
  rw [Lexeme.first_cons_of_isQuote hq, ByteCursor.readQuoted?, hinside.skip (onlyAsksAscii_ne hq)]
  cases hrest : rest.dropWhile (· != q) with
  | nil =>
    rw [hrest] at hstop hsplit
    rw [List.append_nil] at hsplit
    simp only [hstop.peek?_nil, Lexeme.quoted, hrest, take]
    simp [ByteCursor.advance, hsplit, hsize, Nat.add_assoc]
  | cons d after =>
    rw [hrest] at hstop
    obtain ⟨b, hpeek, -⟩ := hstop.peek?_cons
    simp only [ByteCursor.advance] at hslice hpeek ⊢
    simp only [hpeek, hslice, Lexeme.quoted, hrest, take, ByteCursor.advance]
    simp [hsize]
    omega

/-- Whether an equals sign comes next is seen on the next byte. -/
lemma Parts.peek?_step {d : Char} (h : c.Parts pre (d :: rest)) (hd : d.toNat < 128) :
    (c.advance 1).peek? = some '=' ↔ rest.head? = some '=' := by
  have hstep := h.step hd
  cases rest with
  | nil => simp [hstep.peek?_nil]
  | cons e rest =>
    obtain ⟨b, hpeek, rfl | ⟨hb, he⟩⟩ := hstep.peek?_cons
    · simp [hpeek]
    · have hne := ne_of_ge hb (d := '=') (by decide)
      have hne' := ne_of_ge he (d := '=') (by decide)
      simp [hpeek, hne, hne']

lemma Parts.readUnexpected? {d : Char} (h : c.Parts pre (d :: rest)) :
    c.readUnexpected? = some (c.take (Lexeme.unexpected d)) := by
  have hslice := h.sliceText?_end
  have hsize : c.text.utf8ByteSize = c.position + byteLength (d :: rest) := by
    rw [h.text, utf8ByteSize_ofList, byteLength_append, h.position]
  rw [ByteCursor.readUnexpected?, hsize, hslice]
  simp [take, Lexeme.unexpected]

lemma symbol_of_ge {d : Char} {rest : List Char} (h : 128 ≤ d.toNat) :
    Lexeme.symbol d rest = Lexeme.unexpected d := by
  unfold Lexeme.symbol
  split
  case h_10 => rfl
  all_goals exact absurd h (by decide)

lemma readSymbol?_of_ge {b : Char} (h : 128 ≤ b.toNat) : c.readSymbol? b = c.readUnexpected? := by
  simp only [ByteCursor.readSymbol?]
  split
  case h_8 => rfl
  all_goals exact absurd h (by decide)

lemma Parts.readSymbol? {b d : Char} (h : c.Parts pre (d :: rest))
    (hb : b = d ∨ 128 ≤ b.toNat ∧ 128 ≤ d.toNat) :
    c.readSymbol? b = some (c.take (Lexeme.symbol d rest)) := by
  rcases hb with rfl | ⟨hb, hd⟩
  · simp only [ByteCursor.readSymbol?]
    split
    case h_5 | h_6 | h_7 =>
      -- the sign is longer where an equals sign comes next
      simp only [h.peek?_step (by decide)]
      rcases rest with _ | ⟨e, rest⟩
      · rfl
      · by_cases he : e = '='
        · subst he
          rfl
        · simp [he, Lexeme.symbol, Lexeme.sign, Lexeme.unexpected, take]
          rfl
    case h_8 =>
      have hunexpected : Lexeme.symbol b rest = Lexeme.unexpected b := by
        unfold Lexeme.symbol
        split
        case h_10 => rfl
        all_goals contradiction
      rw [hunexpected]
      exact h.readUnexpected?
    all_goals rfl
  · rw [readSymbol?_of_ge hb, symbol_of_ge hd]
    exact h.readUnexpected?

lemma Parts.readLexeme? (h : c.Parts pre rest) :
    c.readLexeme? = some (c.take (Lexeme.first rest)) := by
  cases rest with
  | nil =>
    rw [ByteCursor.readLexeme?, h.peek?_nil]
    rfl
  | cons d rest =>
    obtain ⟨b, hpeek, hb⟩ := h.peek?_cons
    have hletter : isLetter b = isLetter d :=
      OnlyAsksAscii.congr ⟨false, fun _ => isLetter_of_ge⟩ hb
    have hquote : isQuote b = isQuote d :=
      OnlyAsksAscii.congr ⟨false, fun _ => isQuote_of_ge⟩ hb
    simp only [ByteCursor.readLexeme?, hpeek, hletter, hquote]
    split
    case isTrue hd => exact h.readWord? hd
    split
    case isTrue hd =>
      rcases hb with rfl | ⟨-, hlarge⟩
      · exact h.readQuoted? hd
      · rw [isQuote_of_ge hlarge] at hd
        cases hd
    case isFalse hl hq =>
      rw [Lexeme.first_cons_of_not hl hq]
      exact h.readSymbol? hb

/-- Scanning on bytes finds the token and the place that scanning on characters finds. -/
lemma Parts.scan? (h : c.Parts pre rest) :
    c.scan? = some ((Cursor.scan ⟨c.position, rest⟩).1,
      ⟨c.text, (Cursor.scan ⟨c.position, rest⟩).2.offset⟩) := by
  have hsplit := List.takeWhile_append_dropWhile (p := isBlank) (l := rest)
  have hstart := Parts.advance (hsplit ▸ h)
  rw [ByteCursor.scan?, h.skip onlyAsksAscii_isBlank, hstart.readLexeme?]
  rfl

end ByteCursor

/-! ### One scan after another -/

namespace Cursor

/-- The place after so many scans, whatever they give. -/
def after (c : Cursor) (n : Nat) : Cursor :=
  (fun c => c.scan.2)^[n] c

/-- The token that the next scan gives after so many scans. -/
def tokenAfter (c : Cursor) (n : Nat) : Token :=
  (c.after n).scan.1

/-- The place is in the text, behind some of its characters and before the others. -/
def IsIn (c : Cursor) (text : String) : Prop :=
  ∃ pre, text.toList = pre ++ c.rest ∧ c.offset = byteLength pre

variable {c : Cursor} {text : String}

lemma after_succ (c : Cursor) (n : Nat) : c.after (n + 1) = (c.after n).scan.2 :=
  Function.iterate_succ_apply' _ n c

lemma scanTimes_eq_map (c : Cursor) (n : Nat) :
    scanTimes n c = (List.range n).map c.tokenAfter := by
  induction n generalizing c with
  | zero => rfl
  | succ n ih =>
    rw [scanTimes, ih, List.range_succ_eq_map, List.map_cons, List.map_map]
    rfl

lemma isIn_start (text : String) : (start text).IsIn text :=
  ⟨[], rfl, rfl⟩

lemma IsIn.scan (h : c.IsIn text) : c.scan.2.IsIn text := by
  obtain ⟨pre, htext, hoffset⟩ := h
  obtain ⟨b, post, rest, hpost, -, -, hsplit, -, hscan⟩ := c.scan_spec
  refine ⟨pre ++ b ++ (Lexeme.first post).source, ?_, ?_⟩
  · rw [hscan, htext, hpost, List.append_assoc, List.append_assoc, ← hsplit]
  · rw [hscan, hoffset, byteLength_append, byteLength_append]

lemma IsIn.after (h : c.IsIn text) (n : Nat) : (c.after n).IsIn text := by
  induction n with
  | zero => exact h
  | succ n ih => rw [after_succ]; exact ih.scan

lemma IsIn.parts (h : c.IsIn text) : ∃ pre, (ByteCursor.mk text c.offset).Parts pre c.rest := by
  obtain ⟨pre, htext, hoffset⟩ := h
  exact ⟨pre, by rw [← htext, String.ofList_toList], hoffset⟩

lemma IsIn.size (h : c.IsIn text) : text.utf8ByteSize = c.offset + byteLength c.rest := by
  obtain ⟨pre, htext, hoffset⟩ := h
  rw [← String.ofList_toList (s := text), utf8ByteSize_ofList, htext, byteLength_append, hoffset]

lemma IsIn.isValid (h : c.IsIn text) : (⟨c.offset⟩ : String.Pos.Raw).IsValid text := by
  obtain ⟨pre, htext, hoffset⟩ := h
  rw [← String.ofList_toList (s := text), htext, hoffset]
  exact isValid_byteLength pre c.rest

lemma offset_le_position (c : Cursor) : c.offset ≤ c.scan.1.position :=
  Nat.le_add_right _ _

/-- A scan that has not reached the end moves on. -/
lemma position_lt_offset (h : c.scan.1.kind ≠ .endOfLine) :
    c.scan.1.position < c.scan.2.offset := by
  obtain ⟨d, w, hsource⟩ := List.exists_cons_of_ne_nil (Lexeme.source_ne_nil h)
  have hsize := d.utf8Size_pos
  simp only [Cursor.scan, hsource, byteLength_cons]
  omega

lemma scan_of_endOfLine (h : c.scan.1.kind = .endOfLine) :
    c.scan = (⟨c.offset + byteLength c.rest, .endOfLine, ""⟩, ⟨c.offset + byteLength c.rest, []⟩) := by
  have hdrop : c.rest.dropWhile isBlank = [] := Lexeme.eq_nil_of_kind h
  have hsplit := List.takeWhile_append_dropWhile (p := isBlank) (l := c.rest)
  rw [hdrop, List.append_nil] at hsplit
  simp only [Cursor.scan, hdrop, hsplit]
  rfl

/-- The end is never left. -/
lemma tokenAfter_of_endOfLine {k n : Nat} (h : (c.tokenAfter k).kind = .endOfLine) (hn : k ≤ n) :
    c.tokenAfter n = c.tokenAfter k := by
  have hscan := scan_of_endOfLine h
  induction n, hn using Nat.le_induction with
  | base => rfl
  | succ n hn ih =>
    rw [tokenAfter, after_succ]
    have hagain := scan_of_endOfLine (c := c.after n) (by rw [← h, ← ih]; rfl)
    rw [← ih, tokenAfter, hagain]
    rfl

lemma offset_add_le {n : Nat} (h : ∀ i < n, (c.tokenAfter i).kind ≠ .endOfLine) :
    c.offset + n ≤ (c.after n).offset := by
  induction n with
  | zero => exact le_rfl
  | succ n ih =>
    have hbefore := ih fun i hi => h i (by omega)
    have hstep := (c.after n).offset_le_position.trans_lt (position_lt_offset (h n (by omega)))
    rw [after_succ]
    omega

lemma scanTimes_shift (n m : Nat) (c : Cursor) :
    scanTimes m ⟨n + c.offset, c.rest⟩ = (scanTimes m c).map (Token.shift n) := by
  induction m generalizing c with
  | zero => rfl
  | succ m ih =>
    have hscan := scan_shift n c.offset c.rest
    rw [scanTimes, hscan, ih, scanTimes, List.map_cons]

/-- No more scans than there are bytes come before the end. -/
lemma IsIn.exists_endOfLine (h : c.IsIn text) :
    ∃ k ≤ byteLength c.rest, (∀ i < k, (c.tokenAfter i).kind ≠ .endOfLine) ∧
      (c.tokenAfter k).kind = .endOfLine := by
  have hex : ∃ k ≤ byteLength c.rest, (c.tokenAfter k).kind = .endOfLine := by
    by_contra hnone
    have hoffset := offset_add_le (c := c) (n := byteLength c.rest + 1) fun i hi hkind =>
      hnone ⟨i, Nat.lt_succ_iff.mp hi, hkind⟩
    have hin := (h.after (byteLength c.rest + 1)).size
    have hsize := h.size
    omega
  obtain ⟨hle, hend⟩ := Nat.find_spec hex
  refine ⟨Nat.find hex, hle, fun i hi hkind => ?_, hend⟩
  exact Nat.find_min hex hi ⟨(Nat.le_of_lt hi).trans hle, hkind⟩

end Cursor

/-- Scanning may go on over a text for ever. It always stands between two characters of the text, so
that scanning on bytes finds the same tokens there and cuts no character; it moves on with every
token up to the end, which it meets after no more scans than there are bytes, and never leaves. From
any place it goes on as it begins on the text behind that place. -/
theorem scanTimes_on_boundaries (text : String) :
    let place := (Cursor.start text).after
    let token := (Cursor.start text).tokenAfter
    (∀ n, Cursor.scanTimes n (Cursor.start text) = (List.range n).map token) ∧
    (∀ n, (⟨(place n).offset⟩ : String.Pos.Raw).IsValid text ∧
      (place n).offset ≤ text.utf8ByteSize ∧
      ByteCursor.scan? ⟨text, (place n).offset⟩ =
        some (token n, ⟨text, (place (n + 1)).offset⟩)) ∧
    (∃ k ≤ text.utf8ByteSize,
      (∀ i < k, (token i).kind ≠ .endOfLine ∧ (token i).position < (token (i + 1)).position) ∧
      ∀ i, k ≤ i → token i = ⟨text.utf8ByteSize, .endOfLine, ""⟩) ∧
    ∀ n, ∃ rest, sliceText? text (place n).offset text.utf8ByteSize = some rest ∧
      ∀ m, Cursor.scanTimes m (place n) =
        (Cursor.scanTimes m (Cursor.start rest)).map (Token.shift (place n).offset) := by
  intro place token
  have hin : ∀ n, (place n).IsIn text := (Cursor.isIn_start text).after
  have hsucc : ∀ n, place (n + 1) = (place n).scan.2 := (Cursor.start text).after_succ
  refine ⟨Cursor.scanTimes_eq_map _, fun n => ⟨(hin n).isValid, ?_, ?_⟩, ?_, fun n => ?_⟩
  · rw [(hin n).size]
    exact Nat.le_add_right _ _
  · obtain ⟨pre, hparts⟩ := (hin n).parts
    rw [hparts.scan?, hsucc]
    rfl
  · obtain ⟨k, hk, hbefore, hend⟩ := (Cursor.isIn_start text).exists_endOfLine
    have hsize := (Cursor.isIn_start text).size
    refine ⟨k, by omega, fun i hi => ⟨hbefore i hi, ?_⟩, fun i hi => ?_⟩
    · calc (token i).position
        _ < (place i).scan.2.offset := Cursor.position_lt_offset (hbefore i hi)
        _ = (place (i + 1)).offset := by rw [hsucc]
        _ ≤ (token (i + 1)).position := Cursor.offset_le_position _
    · have hsame : token i = token k := Cursor.tokenAfter_of_endOfLine hend hi
      have hscan : token k = ⟨(place k).offset + byteLength (place k).rest, .endOfLine, ""⟩ :=
        congrArg Prod.fst (Cursor.scan_of_endOfLine hend)
      rw [hsame, hscan, (hin k).size]
  · obtain ⟨pre, hparts⟩ := (hin n).parts
    refine ⟨String.ofList (place n).rest, ?_, fun m => ?_⟩
    · rw [(hin n).size]
      exact hparts.sliceText?_end
    · have hshift := Cursor.scanTimes_shift (place n).offset m ⟨0, (place n).rest⟩
      rw [Cursor.start, String.toList_ofList]
      exact hshift

end AlbumCatalog
