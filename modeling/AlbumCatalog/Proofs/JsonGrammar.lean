import AlbumCatalog.Proofs.JsonText
import AlbumCatalog.Text.Number

/-!
# Well-formed JSON

Any JSON value at all: `ValueText` allows every form of a number and every escape in a string, and
white space between the tokens. `Quotes` says in which ways a string can be written, as far as it is
one; an escape of half a surrogate pair is well-formed but spells nothing.
-/

namespace AlbumCatalog

/-! ### Numbers -/

def IsDigits (ds : List Char) : Prop :=
  ds ≠ [] ∧ ∀ d ∈ ds, d.isDigit

/-- The digits before the point. No zero stands before others. -/
def IsWhole (cs : List Char) : Prop :=
  cs = ['0'] ∨ IsDigits cs ∧ '0' ∉ cs.head?

def IsFraction (cs : List Char) : Prop :=
  cs = [] ∨ ∃ ds, cs = '.' :: ds ∧ IsDigits ds

def IsExponent (cs : List Char) : Prop :=
  cs = [] ∨ ∃ e sign ds, cs = e :: (sign ++ ds) ∧ e ∈ ['e', 'E'] ∧ sign ∈ [[], ['+'], ['-']] ∧
    IsDigits ds

/-- A number without its sign. -/
inductive MagnitudeText : List Char → Prop
  | mk {whole fraction exponent : List Char} (hwhole : IsWhole whole)
      (hfraction : IsFraction fraction) (hexponent : IsExponent exponent) :
      MagnitudeText (whole ++ (fraction ++ exponent))

/-! ### Strings -/

/-- Four hexadecimal digits. -/
def IsHex (ds : List Char) : Prop :=
  ds.length = 4 ∧ ∀ d ∈ ds, (hexValue? d).isSome

/-- A character that stands for itself in a string. -/
def IsPlain (c : Char) : Prop :=
  c ≠ '"' ∧ c ≠ '\\' ∧ ¬ c < ' '

/-- An escape behind its backslash, whatever it stands for. -/
inductive EscapeText : List Char → Prop
  | mark {m : Char} (hm : m ∈ ['"', '\\', '/', 'b', 'f', 'n', 'r', 't']) : EscapeText [m]
  | code {ds : List Char} (hds : IsHex ds) : EscapeText ('u' :: ds)

/-- What may stand behind the quote that opens a string, up to the one that closes it. -/
inductive StringRest : List Char → Prop
  | close : StringRest ['"']
  | plain {c : Char} {cs : List Char} (hc : IsPlain c) (hcs : StringRest cs) : StringRest (c :: cs)
  | escape {es cs : List Char} (hes : EscapeText es) (hcs : StringRest cs) :
      StringRest ('\\' :: (es ++ cs))

inductive StringText : List Char → Prop
  | mk {cs : List Char} (hcs : StringRest cs) : StringText ('"' :: cs)

/-- The ways to write one character: itself, an escape of its own, its number, or the two numbers of
a surrogate pair. -/
inductive CharText : Char → List Char → Prop
  | plain {c : Char} (hc : IsPlain c) : CharText c [c]
  | mark {m c : Char} (hm : (m, c) ∈ [('"', '"'), ('\\', '\\'), ('/', '/'), ('b', '\x08'),
      ('f', '\x0c'), ('n', '\n'), ('r', '\r'), ('t', '\t')]) : CharText c ['\\', m]
  | code {c : Char} {ds : List Char} (hds : IsHex ds) (hc : hexNumber ds = c.toNat) :
      CharText c ('\\' :: 'u' :: ds)
  | pair {c : Char} {high low : List Char} (hhigh : IsHex high) (hlow : IsHex low)
      (hc : 0x10000 ≤ c.toNat) (hhighHalf : hexNumber high = 0xD800 + (c.toNat - 0x10000) / 0x400)
      (hlowHalf : hexNumber low = 0xDC00 + (c.toNat - 0x10000) % 0x400) :
      CharText c ('\\' :: 'u' :: (high ++ '\\' :: 'u' :: low))

inductive QuotesRest : List Char → List Char → Prop
  | close : QuotesRest [] ['"']
  | char {c : Char} {s ps cs : List Char} (hc : CharText c ps) (hcs : QuotesRest s cs) :
      QuotesRest (c :: s) (ps ++ cs)

/-- The text is a string with these characters. -/
inductive Quotes (s : String) : List Char → Prop
  | mk {cs : List Char} (hcs : QuotesRest s.toList cs) : Quotes s ('"' :: cs)

lemma hexValue_hexDigit : ∀ n < 16, hexValue? (hexDigit n) = some n := by decide

lemma charText_jsonChar (c : Char) : CharText c (jsonChar c) := by
  unfold jsonChar
  -- the seven characters that have an escape of their own
  iterate 7
    split
    · subst c
      exact .mark (by decide)
  split
  · rename_i hcontrol
    have hsmall : c.toNat < 32 := hcontrol
    have hzero : hexValue? '0' = some 0 := hexValue_hexDigit 0 (by omega)
    have hhigh := hexValue_hexDigit (c.toNat / 16) (by omega)
    have hlow := hexValue_hexDigit (c.toNat % 16) (by omega)
    refine .code ⟨rfl, by simp [hzero, hhigh, hlow]⟩ ?_
    simp only [hexNumber, List.foldl_cons, List.foldl_nil, hzero, hhigh, hlow, Option.getD_some]
    omega
  · rename_i hquote hbackslash _ _ _ _ _ hcontrol
    exact .plain ⟨hquote, hbackslash, hcontrol⟩

lemma quotesRest_jsonChar (cs : List Char) : QuotesRest cs (cs.flatMap jsonChar ++ ['"']) := by
  induction cs with
  | nil => exact .close
  | cons c cs ih =>
    rw [List.flatMap_cons, List.append_assoc]
    exact .char (charText_jsonChar c) ih

lemma quotes_jsonString (s : String) : Quotes s (jsonString s) :=
  .mk (quotesRest_jsonChar s.toList)

/-! ### Values -/

inductive ValueText : List Char → Prop
  | word {w : List Char}
      (hw : w ∈ [['n', 'u', 'l', 'l'], ['t', 'r', 'u', 'e'], ['f', 'a', 'l', 's', 'e']]) :
      ValueText w
  | number {cs : List Char} (hcs : MagnitudeText cs) : ValueText cs
  | negative {cs : List Char} (hcs : MagnitudeText cs) : ValueText ('-' :: cs)
  | string {cs : List Char} (hcs : StringText cs) : ValueText cs
  | list {ps : List (List Char)} {ds : List Char} (hps : ∀ p ∈ ps, ValueText p)
      (hds : Pieces ps ds) : ValueText ('[' :: (ds ++ [']']))
  | object {ps : List (List Char)} {ds : List Char}
      (hps : ∀ p ∈ ps, MemberText StringText ValueText p) (hds : Pieces ps ds) :
      ValueText ('\x7b' :: (ds ++ ['\x7d']))

end AlbumCatalog
