import AlbumCatalog.Json.Read
import AlbumCatalog.Json.Write
import AlbumCatalog.Proofs.Digits

/-!
# How JSON values are laid out in a text

`JsonText` says in which ways the tokens of a value can be written with white space between them,
and does not mention the writer or the readers. Every layout of the writer is one of these ways.
-/

namespace AlbumCatalog

def IsJsonBlanks (b : List Char) : Prop :=
  ∀ c ∈ b, isJsonBlank c

mutual

inductive JsonText : Json → List Char → Prop
  | null : JsonText .null ['n', 'u', 'l', 'l']
  | yes : JsonText (.bool true) ['t', 'r', 'u', 'e']
  | no : JsonText (.bool false) ['f', 'a', 'l', 's', 'e']
  | number (n : Int) : JsonText (.number n) (decimalInt n)
  | string (s : String) : JsonText (.string s) (jsonString s)
  | array {items : List Json} {cs : List Char} (h : ItemsText items cs) :
      JsonText (.array items) ('[' :: (cs ++ [']']))
  | object {members : List (String × Json)} {cs : List Char} (h : MembersText members cs) :
      JsonText (.object members) ('\x7b' :: (cs ++ ['\x7d']))

/-- The values between the brackets of a list. -/
inductive ItemsText : List Json → List Char → Prop
  | nil {b : List Char} (hb : IsJsonBlanks b) : ItemsText [] b
  | cons {v : Json} {vs : List Json} {b cs ds : List Char} (hb : IsJsonBlanks b)
      (hv : JsonText v cs) (hvs : FurtherItemsText vs ds) : ItemsText (v :: vs) (b ++ (cs ++ ds))

/-- The values behind another one, each with its comma. -/
inductive FurtherItemsText : List Json → List Char → Prop
  | nil {b : List Char} (hb : IsJsonBlanks b) : FurtherItemsText [] b
  | cons {v : Json} {vs : List Json} {b b' cs ds : List Char} (hb : IsJsonBlanks b)
      (hb' : IsJsonBlanks b') (hv : JsonText v cs) (hvs : FurtherItemsText vs ds) :
      FurtherItemsText (v :: vs) (b ++ ',' :: (b' ++ (cs ++ ds)))

/-- The keys and values between the braces of an object. -/
inductive MembersText : List (String × Json) → List Char → Prop
  | nil {b : List Char} (hb : IsJsonBlanks b) : MembersText [] b
  | cons (key : String) {v : Json} {ms : List (String × Json)} {b gap gap' cs ds : List Char}
      (hb : IsJsonBlanks b) (hgap : IsJsonBlanks gap) (hgap' : IsJsonBlanks gap')
      (hv : JsonText v cs) (hms : FurtherMembersText ms ds) :
      MembersText ((key, v) :: ms) (b ++ (jsonString key ++ (gap ++ ':' :: (gap' ++ (cs ++ ds)))))

/-- The keys and values behind others. -/
inductive FurtherMembersText : List (String × Json) → List Char → Prop
  | nil {b : List Char} (hb : IsJsonBlanks b) : FurtherMembersText [] b
  | cons (key : String) {v : Json} {ms : List (String × Json)} {b b' gap gap' cs ds : List Char}
      (hb : IsJsonBlanks b) (hb' : IsJsonBlanks b') (hgap : IsJsonBlanks gap)
      (hgap' : IsJsonBlanks gap') (hv : JsonText v cs) (hms : FurtherMembersText ms ds) :
      FurtherMembersText ((key, v) :: ms)
        (b ++ ',' :: (b' ++ (jsonString key ++ (gap ++ ':' :: (gap' ++ (cs ++ ds))))))

end

/-! ### What the writer writes -/

lemma isJsonBlanks_nil : IsJsonBlanks [] := by
  simp [IsJsonBlanks]

/-- All that a layout adds is white space. -/
structure JsonLayout.IsBlank (l : JsonLayout) : Prop where
  newline : ∀ depth, IsJsonBlanks (l.newline depth)
  gap : IsJsonBlanks l.gap

lemma JsonLayout.isBlank_compact : compact.IsBlank :=
  ⟨fun _ => isJsonBlanks_nil, isJsonBlanks_nil⟩

lemma JsonLayout.isBlank_pretty : pretty.IsBlank := by
  refine ⟨?_, ?_⟩
  · intro depth c hc
    rcases List.mem_cons.mp hc with rfl | hc
    · rfl
    · rw [List.eq_of_mem_replicate hc]
      rfl
  · intro c hc
    rw [List.mem_singleton.mp hc]
    rfl

section Write

variable {l : JsonLayout} (hl : l.IsBlank)
include hl

mutual

lemma Json.text_write (depth : Nat) : ∀ v : Json, JsonText v (v.write l depth)
  | .null => .null
  | .bool true => .yes
  | .bool false => .no
  | .number n => .number n
  | .string s => .string s
  | .array [] => .array (.nil isJsonBlanks_nil)
  | .array (v :: items) => by
    have h := ItemsText.cons (hl.newline (depth + 1)) (text_write (depth + 1) v)
      (text_writeItems (depth + 1) (hl.newline depth) items)
    simpa [write] using JsonText.array h
  | .object [] => .object (.nil isJsonBlanks_nil)
  | .object ((key, v) :: members) => by
    have h := MembersText.cons key (hl.newline (depth + 1)) isJsonBlanks_nil hl.gap
      (text_write (depth + 1) v) (text_writeMembers (depth + 1) (hl.newline depth) members)
    simpa [write] using JsonText.object h

lemma Json.text_writeItems (depth : Nat) {b : List Char} (hb : IsJsonBlanks b) :
    ∀ items : List Json, FurtherItemsText items (writeItems l depth items ++ b)
  | [] => .nil hb
  | v :: items => by
    have h := FurtherItemsText.cons isJsonBlanks_nil (hl.newline depth) (text_write depth v)
      (text_writeItems depth hb items)
    simpa [writeItems] using h

lemma Json.text_writeMembers (depth : Nat) {b : List Char} (hb : IsJsonBlanks b) :
    ∀ members : List (String × Json),
      FurtherMembersText members (writeMembers l depth members ++ b)
  | [] => .nil hb
  | (key, v) :: members => by
    have h := FurtherMembersText.cons key isJsonBlanks_nil (hl.newline depth)
      isJsonBlanks_nil hl.gap (text_write depth v) (text_writeMembers depth hb members)
    simpa [writeMembers] using h

end

end Write

/-! ### First characters -/

lemma not_isJsonBlank_of_isDigit {c : Char} (h : c.isDigit) : isJsonBlank c = false := by
  by_contra hb
  simp only [isJsonBlank, Bool.not_eq_false, Bool.or_eq_true, beq_iff_eq] at hb
  rcases hb with ((rfl | rfl) | rfl) | rfl <;> cases h

/-- A text that begins neither with white space nor as a list ends. -/
def IsItem (p : List Char) : Prop :=
  ∃ c rest, p = c :: rest ∧ isJsonBlank c = false ∧ c ≠ ']'

lemma isItem_decimalInt (n : Int) : IsItem (decimalInt n) := by
  rw [decimalInt]
  split
  · exact ⟨_, _, rfl, rfl, by decide⟩
  · obtain ⟨c, rest, hc⟩ := List.exists_cons_of_ne_nil (decimal_ne_nil n.natAbs)
    have hdigit : c.isDigit := isDigit_of_mem_decimal _ c (by rw [hc]; exact List.mem_cons_self)
    refine ⟨c, rest, hc, not_isJsonBlank_of_isDigit hdigit, ?_⟩
    rintro rfl
    cases hdigit

lemma JsonText.isItem {v : Json} {cs : List Char} (h : JsonText v cs) : IsItem cs := by
  cases h with
  | number n => exact isItem_decimalInt n
  | _ => exact ⟨_, _, rfl, rfl, by decide⟩

/-! ### Pieces between commas -/

/-- Pieces behind another one, each with its comma. -/
inductive FurtherPieces : List (List Char) → List Char → Prop
  | nil {b : List Char} (hb : IsJsonBlanks b) : FurtherPieces [] b
  | cons {p : List Char} {ps : List (List Char)} {b b' ds : List Char} (hb : IsJsonBlanks b)
      (hb' : IsJsonBlanks b') (hps : FurtherPieces ps ds) :
      FurtherPieces (p :: ps) (b ++ ',' :: (b' ++ (p ++ ds)))

/-- What lies between the brackets of a list or the braces of an object. -/
inductive Pieces : List (List Char) → List Char → Prop
  | nil {b : List Char} (hb : IsJsonBlanks b) : Pieces [] b
  | cons {p : List Char} {ps : List (List Char)} {b ds : List Char} (hb : IsJsonBlanks b)
      (hps : FurtherPieces ps ds) : Pieces (p :: ps) (b ++ (p ++ ds))

/-- A key and a value behind its colon. -/
inductive MemberText (K V : List Char → Prop) : List Char → Prop
  | mk {k gap gap' v : List Char} (hk : K k) (hgap : IsJsonBlanks gap) (hgap' : IsJsonBlanks gap')
      (hv : V v) : MemberText K V (k ++ (gap ++ ':' :: (gap' ++ v)))

lemma FurtherPieces.length_le {ps : List (List Char)} {ds : List Char} (h : FurtherPieces ps ds) :
    ps.length ≤ ds.length ∧ ∀ p ∈ ps, p.length ≤ ds.length := by
  induction h with
  | nil hb => simp
  | cons hb hb' hps ih =>
    simp only [List.length_append, List.length_cons, List.mem_cons]
    refine ⟨by omega, ?_⟩
    rintro q (rfl | hq)
    · omega
    · have := ih.2 q hq
      omega

lemma Pieces.length_le {ps : List (List Char)} {ds : List Char} (h : Pieces ps ds) :
    ps.length ≤ ds.length + 1 ∧ ∀ p ∈ ps, p.length ≤ ds.length := by
  cases h with
  | nil hb => simp
  | cons hb hps =>
    have hlength := hps.length_le
    simp only [List.length_append, List.length_cons, List.mem_cons]
    refine ⟨by omega, ?_⟩
    rintro q (rfl | hq)
    · omega
    · have := hlength.2 q hq
      omega

lemma FurtherItemsText.pieces {vs : List Json} {cs : List Char} (h : FurtherItemsText vs cs) :
    ∃ ps, List.Forall₂ JsonText vs ps ∧ FurtherPieces ps cs := by
  induction vs generalizing cs with
  | nil =>
    cases h with
    | nil hb => exact ⟨[], .nil, .nil hb⟩
  | cons v vs ih =>
    cases h with
    | cons hb hb' hv hvs =>
      obtain ⟨ps, hps, hcs⟩ := ih hvs
      exact ⟨_, .cons hv hps, .cons hb hb' hcs⟩

lemma ItemsText.pieces {vs : List Json} {cs : List Char} (h : ItemsText vs cs) :
    ∃ ps, List.Forall₂ JsonText vs ps ∧ Pieces ps cs := by
  cases h with
  | nil hb => exact ⟨[], .nil, .nil hb⟩
  | cons hb hv hvs =>
    obtain ⟨ps, hps, hcs⟩ := hvs.pieces
    exact ⟨_, .cons hv hps, .cons hb hcs⟩

/-- A member as it is written, in any layout. -/
def IsMember (m : String × Json) : List Char → Prop :=
  MemberText (· = jsonString m.1) (JsonText m.2)

lemma FurtherMembersText.pieces {ms : List (String × Json)} {cs : List Char}
    (h : FurtherMembersText ms cs) : ∃ ps, List.Forall₂ IsMember ms ps ∧ FurtherPieces ps cs := by
  induction ms generalizing cs with
  | nil =>
    cases h with
    | nil hb => exact ⟨[], .nil, .nil hb⟩
  | cons m ms ih =>
    cases h with
    | @cons key v _ b b' gap gap' vcs ds hb hb' hgap hgap' hv hms =>
      obtain ⟨ps, hps, hcs⟩ := ih hms
      have hmember : IsMember (key, v) (jsonString key ++ (gap ++ ':' :: (gap' ++ vcs))) :=
        .mk rfl hgap hgap' hv
      refine ⟨_, .cons hmember hps, ?_⟩
      simpa only [List.append_assoc, List.cons_append] using
        FurtherPieces.cons (p := jsonString key ++ (gap ++ ':' :: (gap' ++ vcs))) hb hb' hcs

lemma MembersText.pieces {ms : List (String × Json)} {cs : List Char} (h : MembersText ms cs) :
    ∃ ps, List.Forall₂ IsMember ms ps ∧ Pieces ps cs := by
  cases h with
  | nil hb => exact ⟨[], .nil, .nil hb⟩
  | @cons key v _ b gap gap' vcs ds hb hgap hgap' hv hms =>
    obtain ⟨ps, hps, hcs⟩ := hms.pieces
    have hmember : IsMember (key, v) (jsonString key ++ (gap ++ ':' :: (gap' ++ vcs))) :=
      .mk rfl hgap hgap' hv
    refine ⟨_, .cons hmember hps, ?_⟩
    simpa only [List.append_assoc, List.cons_append] using
      Pieces.cons (p := jsonString key ++ (gap ++ ':' :: (gap' ++ vcs))) hb hcs

end AlbumCatalog
