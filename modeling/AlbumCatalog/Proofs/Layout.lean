import AlbumCatalog.Filter.Scan
import Mathlib.Data.List.TakeWhile
import Mathlib.Tactic.Lemma

/-!
# How tokens are laid out in a text

A token without its place is a `Symbol`. `Spelling` says in which ways a symbol can be written, and
`Layout` how written symbols stand behind one another with blanks between them. Both are said
without reference to the scanner.
-/

namespace AlbumCatalog

structure Symbol where
  kind : TokenKind
  literal : String
  deriving DecidableEq, Repr

def Token.symbol (t : Token) : Symbol :=
  ⟨t.kind, t.literal⟩

namespace TokenKind

def isKeyword : TokenKind → Bool
  | and | or | like | oneOf => true
  | _ => false

def isWord (k : TokenKind) : Bool :=
  k.isKeyword || k == field

def isSign : TokenKind → Bool
  | eq | ne | lt | le | gt | ge | leftBracket | rightBracket | comma => true
  | _ => false

end TokenKind

/-- A run of spaces and tabs, which may be empty. -/
def IsBlanks (b : List Char) : Prop :=
  ∀ c ∈ b, isBlank c

/-- A letter and after it letters and dots. -/
def IsWord (w : List Char) : Prop :=
  ∃ c rest, w = c :: rest ∧ isLetter c ∧ ∀ d ∈ rest, isWordChar d

/-- The word is the name of the kind in some letter case. -/
def Spells (w : List Char) (k : TokenKind) : Prop :=
  w.map Char.toLower = k.name.toList

/-- A word that is no keyword in any letter case. -/
def IsFieldName (w : List Char) : Prop :=
  IsWord w ∧ ∀ k : TokenKind, k.isKeyword → ¬ Spells w k

/-- The ways to write a symbol. The contents of a string are written as they are. -/
inductive Spelling : Symbol → List Char → Prop
  | field {w : List Char} (hw : IsFieldName w) : Spelling ⟨.field, String.ofList w⟩ w
  | keyword {k : TokenKind} {w : List Char} (hk : k.isKeyword) (hw : Spells w k) :
      Spelling ⟨k, ""⟩ w
  | sign {k : TokenKind} (hk : k.isSign) : Spelling ⟨k, ""⟩ k.name.toList
  | string {q : Char} {s : List Char} (hq : isQuote q) (hs : q ∉ s) :
      Spelling ⟨.string, String.ofList s⟩ (q :: s ++ [q])

/-- The symbols written in order, with blanks before each of them and at the end. A word behind
another word needs a blank; `afterWord` says that a word stands before the text. -/
inductive Layout : Bool → List Symbol → List Char → Prop
  | blanks {afterWord : Bool} {b : List Char} (hb : IsBlanks b) : Layout afterWord [] b
  | symbol {afterWord : Bool} {b w rest : List Char} {x : Symbol} {xs : List Symbol}
      (hb : IsBlanks b) (hgap : afterWord → x.kind.isWord → b ≠ []) (hx : Spelling x w)
      (hrest : Layout x.kind.isWord xs rest) : Layout afterWord (x :: xs) (b ++ w ++ rest)

lemma TokenKind.isFinal_iff {k : TokenKind} : k.isFinal ↔ k = .illegal ∨ k = .endOfLine := by
  cases k <;> simp [isFinal]

/-! ### Letters and words -/

lemma isLetter_of_toLower {c : Char} (h : isLetter c.toLower) : isLetter c := by
  by_cases hc : 'A' ≤ c ∧ c ≤ 'Z'
  · simp only [isLetter, Bool.or_eq_true, Bool.and_eq_true, decide_eq_true_eq]
    exact Or.inr hc
  · have hsame : c.toLower = c := dif_neg hc
    rwa [hsame] at h

lemma isWordChar_of_isLetter {c : Char} (h : isLetter c) : isWordChar c := by
  simp [isWordChar, h]

lemma not_isBlank_of_isWordChar {c : Char} (h : isWordChar c) : isBlank c = false := by
  by_contra hb
  simp only [isBlank, Bool.not_eq_false, Bool.or_eq_true, beq_iff_eq] at hb
  rcases hb with rfl | rfl <;> simp [isWordChar, isLetter] at h

lemma not_isWordChar_of_isQuote {c : Char} (h : isQuote c) : isWordChar c = false := by
  simp only [isQuote, Bool.or_eq_true, beq_iff_eq] at h
  rcases h with rfl | rfl <;> rfl

lemma not_isBlank_of_isQuote {c : Char} (h : isQuote c) : isBlank c = false := by
  simp only [isQuote, Bool.or_eq_true, beq_iff_eq] at h
  rcases h with rfl | rfl <;> rfl

lemma TokenKind.isLetter_of_mem_name {k : TokenKind} (hk : k.isKeyword) :
    ∀ c ∈ k.name.toList, isLetter c := by
  rw [← List.all_eq_true]
  cases k with
  | and | or | like | oneOf => rfl
  | _ => cases hk

lemma TokenKind.name_ne_nil {k : TokenKind} (hk : k.isKeyword) : k.name.toList ≠ [] := by
  cases k with
  | and | or | like | oneOf => simp [name]
  | _ => cases hk

lemma isLetter_of_spells {w : List Char} {k : TokenKind} (hk : k.isKeyword) (hw : Spells w k) :
    ∀ c ∈ w, isLetter c := by
  intro c hc
  have hlower : c.toLower ∈ k.name.toList := by
    rw [← hw]
    exact List.mem_map_of_mem hc
  exact isLetter_of_toLower (TokenKind.isLetter_of_mem_name hk _ hlower)

lemma isWord_of_spells {w : List Char} {k : TokenKind} (hk : k.isKeyword) (hw : Spells w k) :
    IsWord w := by
  have hletters := isLetter_of_spells hk hw
  cases w with
  | nil => exact absurd hw.symm (TokenKind.name_ne_nil hk)
  | cons c rest =>
    refine ⟨c, rest, rfl, hletters c List.mem_cons_self, ?_⟩
    intro d hd
    exact isWordChar_of_isLetter (hletters d (List.mem_cons_of_mem c hd))

/-! ### The first character of a spelling -/

/-- The first character of a written symbol is no blank, tells whether the symbol is a word, and is
an equals sign only where the symbol is one. -/
lemma Spelling.exists_cons {x : Symbol} {w : List Char} (h : Spelling x w) :
    ∃ c rest, w = c :: rest ∧ isBlank c = false ∧ isWordChar c = x.kind.isWord ∧
      (c = '=' → x.kind = .eq) := by
  have hword : ∀ {k : TokenKind}, IsWord w → k.isWord → ∃ c rest, w = c :: rest ∧
      isBlank c = false ∧ isWordChar c = k.isWord ∧ (c = '=' → k = .eq) := by
    rintro k ⟨c, rest, rfl, hc, -⟩ hk
    have hwc := isWordChar_of_isLetter hc
    refine ⟨c, rest, rfl, not_isBlank_of_isWordChar hwc, hwc.trans hk.symm, ?_⟩
    rintro rfl
    exact absurd hc (by decide)
  cases h with
  | field hw => exact hword hw.1 rfl
  | keyword hk hw => exact hword (isWord_of_spells hk hw) (by simp [TokenKind.isWord, hk])
  | @sign k hk =>
    cases k with
    | eq => exact ⟨_, _, rfl, rfl, rfl, fun _ => rfl⟩
    | ne | lt | le | gt | ge | leftBracket | rightBracket | comma =>
      exact ⟨_, _, rfl, rfl, rfl, by decide⟩
    | _ => cases hk
  | @string q s hq hs =>
    refine ⟨q, s ++ [q], rfl, not_isBlank_of_isQuote hq, not_isWordChar_of_isQuote hq, ?_⟩
    rintro rfl
    exact absurd hq (by decide)

lemma Spelling.isFieldName {x : Symbol} {w : List Char} (h : Spelling x w) (hx : x.kind = .field) :
    IsFieldName x.literal.toList := by
  cases h with
  | field hw => simpa using hw
  | keyword hk hw =>
    subst hx
    cases hk
  | sign hk =>
    subst hx
    cases hk
  | string hq hs => cases hx

lemma Spelling.not_isFinal {x : Symbol} {w : List Char} (h : Spelling x w) : ¬ x.kind.isFinal := by
  intro hx
  rcases TokenKind.isFinal_iff.mp hx with hx | hx
  all_goals
    cases h with
    | keyword hk hw | sign hk =>
      subst hx
      cases hk
    | field hw | string hq hs => cases hx

lemma Spelling.literal_eq {x : Symbol} {w : List Char} (h : Spelling x w) (hf : x.kind ≠ .field)
    (hs : x.kind ≠ .string) : x.literal = "" := by
  cases h with
  | field hw => exact absurd rfl hf
  | keyword hk hw => rfl
  | sign hk => rfl
  | string hq hs' => exact absurd rfl hs

/-! ### Layouts -/

lemma Layout.exists_spelling {afterWord : Bool} {xs : List Symbol} {cs : List Char}
    (h : Layout afterWord xs cs) : ∀ x ∈ xs, ∃ w, Spelling x w := by
  induction h with
  | blanks hb => simp
  | symbol hb hgap hx hrest ih =>
    intro y hy
    rcases List.mem_cons.mp hy with rfl | hy
    · exact ⟨_, hx⟩
    · exact ih y hy

lemma IsBlanks.append {b b' : List Char} (h : IsBlanks b) (h' : IsBlanks b') :
    IsBlanks (b ++ b') := by
  intro c hc
  rcases List.mem_append.mp hc with hc | hc
  · exact h c hc
  · exact h' c hc

lemma isBlank_space : IsBlanks [' '] := by
  simp [IsBlanks, isBlank]

/-- Blanks may be added before a layout. They are a gap where there are any. -/
lemma Layout.blanks_append {v v' : Bool} {ys : List Symbol} {b ds : List Char} (hb : IsBlanks b)
    (hgap : v → b = [] → v') (h : Layout v' ys ds) : Layout v ys (b ++ ds) := by
  cases h with
  | blanks hb' => exact .blanks (hb.append hb')
  | @symbol _ b' w rest x xs hb' hgap' hx hrest =>
    have h : Layout v (x :: xs) ((b ++ b') ++ w ++ rest) := by
      refine .symbol (hb.append hb') ?_ hx hrest
      intro hv hword hnil
      obtain ⟨hnil, hnil'⟩ := List.append_eq_nil_iff.mp hnil
      exact hgap' (hgap hv hnil) hword hnil'
    simpa only [List.append_assoc] using h

lemma Layout.append {v : Bool} {xs ys : List Symbol} {cs ds : List Char} (h : Layout v xs cs)
    (h' : Layout true ys ds) : Layout v (xs ++ ys) (cs ++ ds) := by
  induction h with
  | blanks hb => exact h'.blanks_append hb (fun _ _ => rfl)
  | symbol hb hgap hx hrest ih =>
    rw [List.cons_append, List.append_assoc]
    exact .symbol hb hgap hx ih

end AlbumCatalog
