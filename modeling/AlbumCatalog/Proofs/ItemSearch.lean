import AlbumCatalog.Proofs.FieldComparison
import Mathlib.Data.List.Basic

/-!
# Searching the items of a field

Tags and the owners of grants are searched as one text, in which single spaces stand between them. A
value without a space cannot reach over such a space, so it is found exactly when it is found in one of
the items, in whatever order these stand.
-/

namespace AlbumCatalog

/-! ### Texts in joined texts -/

/-- The value stands somewhere in the text without a gap. -/
def Occurs (value text : String) : Prop :=
  ∃ front back, text = front ++ value ++ back

lemma occurs_iff_isInfix {value text : String} : Occurs value text ↔ value.toList <:+: text.toList := by
  constructor
  · rintro ⟨front, back, rfl⟩
    exact ⟨front.toList, back.toList, by simp⟩
  · rintro ⟨front, back, h⟩
    refine ⟨String.ofList front, String.ofList back, String.toList_injective ?_⟩
    simpa using h.symm

lemma Occurs.trans {value text whole : String} (h : Occurs value text) (h' : Occurs text whole) :
    Occurs value whole := by
  rw [occurs_iff_isInfix] at *
  exact h.trans h'

section Join

variable {α : Type} {sep : α} {v : List α}

/-- What does not have the separator in it lies in front of the separator or behind it. -/
lemma infix_append_cons_iff (hne : v ≠ []) (hsep : sep ∉ v) (front back : List α) :
    v <:+: front ++ sep :: back ↔ v <:+: front ∨ v <:+: back := by
  constructor
  · intro h
    rcases List.infix_append_iff_ne_nil.mp h with h | h | ⟨v₁, v₂, -, hne₂, rfl, -, h⟩
    · exact .inl h
    · rcases List.infix_cons_iff.mp h with h | h
      · obtain ⟨c, rest, rfl⟩ := List.exists_cons_of_ne_nil hne
        exact absurd ((List.cons_prefix_cons.mp h).1 ▸ List.mem_cons_self) hsep
      · exact .inr h
    · -- the part from the separator on would begin with the separator
      obtain ⟨c, rest, rfl⟩ := List.exists_cons_of_ne_nil hne₂
      obtain ⟨rfl, -⟩ := List.cons_prefix_cons.mp h
      exact absurd (List.mem_append_right v₁ List.mem_cons_self) hsep
  · rintro (h | h)
    · exact List.infix_append_of_infix_left h
    · exact List.infix_append_of_infix_right (List.infix_cons h)

lemma infix_intercalate_iff (hne : v ≠ []) (hsep : sep ∉ v) (items : List (List α)) :
    v <:+: [sep].intercalate items ↔ ∃ item ∈ items, v <:+: item := by
  induction items with
  | nil => simpa using hne
  | cons item items ih =>
    cases items with
    | nil => simp
    | cons next more =>
      rw [List.intercalate_cons_cons, List.append_assoc, List.singleton_append,
        infix_append_cons_iff hne hsep, ih]
      exact (List.exists_mem_cons_iff (v <:+: ·) item (next :: more)).symm

lemma infix_intercalate_of_mem {items : List (List α)} {item : List α} (h : item ∈ items) :
    item <:+: [sep].intercalate items := by
  induction items with
  | nil => cases h
  | cons first items ih =>
    cases items with
    | nil =>
      obtain rfl := List.mem_singleton.mp h
      simp
    | cons next more =>
      rw [List.intercalate_cons_cons, List.append_assoc]
      rcases List.mem_cons.mp h with rfl | h
      · exact List.infix_append_left
      · exact List.infix_append_of_infix_right (List.infix_append_of_infix_right (ih h))

end Join

/-- Whether the value stands in the items when they are joined by single spaces. -/
def foundIn (value : String) (items : List String) : Bool :=
  occursIn value.toList (" ".intercalate items).toList

section Items

variable {value : String} {items : List String}

lemma foundIn_iff : foundIn value items ↔ Occurs value (" ".intercalate items) :=
  Iff.trans occursIn_iff_infix occurs_iff_isInfix.symm

lemma toList_join (items : List String) :
    (" ".intercalate items).toList = [' '].intercalate (items.map String.toList) :=
  String.toList_intercalate

lemma foundIn_iff_of_no_space (hne : value ≠ "") (hspace : ' ' ∉ value.toList) :
    foundIn value items ↔ ∃ item ∈ items, Occurs value item := by
  have hne' : value.toList ≠ [] := fun h => hne (String.toList_injective h)
  simp only [foundIn_iff, occurs_iff_isInfix, toList_join, infix_intercalate_iff hne' hspace,
    List.mem_map, exists_exists_and_eq_and]

lemma foundIn_of_mem {item : String} (hitem : item ∈ items) (h : Occurs value item) :
    foundIn value items := by
  refine foundIn_iff.mpr (h.trans ?_)
  rw [occurs_iff_isInfix, toList_join]
  exact infix_intercalate_of_mem (List.mem_map_of_mem hitem)

end Items

/-! ### Fields with items -/

/-- The fields that hold any number of texts. -/
inductive ItemField
  | tag
  | userPermissions
  | groupPermissions
  deriving DecidableEq, Repr

namespace ItemField

def field : ItemField → Field
  | tag => .tag
  | userPermissions => .userPermissions
  | groupPermissions => .groupPermissions

/-- The texts that an album has in the field. -/
def items : ItemField → Album → List String
  | tag => Album.tags
  | userPermissions => Album.userOwners
  | groupPermissions => Album.groupOwners

lemma test_eq (t : ItemField) (op : TokenKind) (right : Expr) :
    t.field.test op right = (· ∘ t.items) <$> itemsTest t.field op right := by
  cases t <;> rfl

/-- The filter that compares the items with a value. -/
def search (t : ItemField) (op : TokenKind) (value : String) : Filter :=
  ⟨.field t.field.text, op, .text value⟩

lemma matches_search (t : ItemField) {op : TokenKind} (hop : op.isComparison) (value : String)
    (a : Album) :
    (t.search op value).matches a = (· (t.items a)) <$> itemsTest t.field op (.text value) := by
  have hmatches : (t.search op value).matches a = (· a) <$> t.field.test op (.text value) :=
    matches_comparison t.field hop (.text value) a
  rw [hmatches, t.test_eq, apply_map_comp]

end ItemField

/-- Equality with a value finds the value in the items joined by single spaces, and inequality is its
opposite. A value without a space, unless it is empty, is found exactly when it stands in a single
item: never without items, and however the items are ordered. Every item is found, and every part of
an item; the empty value is always found. -/
theorem value_is_found_in_single_item (t : ItemField) (value : String) (a : Album) :
    ∃ found : Bool,
      (t.search .eq value).matches a = .ok found ∧
      (t.search .ne value).matches a = .ok !found ∧
      (value ≠ "" → ' ' ∉ value.toList →
        (found ↔ ∃ item ∈ t.items a, Occurs value item) ∧
        (t.items a = [] → found = false) ∧
        ∀ b : Album, (t.items b).Perm (t.items a) → (t.search .eq value).matches b = .ok found) ∧
      (∀ item ∈ t.items a, Occurs value item → found) ∧
      (value = "" → found) ∧
      (found ↔ Occurs value (" ".intercalate (t.items a))) := by
  have hsearch : ∀ b : Album,
      (t.search .eq value).matches b = .ok (foundIn value (t.items b)) := fun b =>
    t.matches_search rfl value b
  refine ⟨foundIn value (t.items a), hsearch a, t.matches_search rfl value a, ?_, ?_, ?_,
    foundIn_iff⟩
  · intro hne hspace
    have hfound : ∀ b : Album, foundIn value (t.items b) ↔ ∃ item ∈ t.items b, Occurs value item :=
      fun b => foundIn_iff_of_no_space hne hspace
    refine ⟨hfound a, fun hnone => ?_, fun b hperm => ?_⟩
    · rw [Bool.eq_false_iff, Ne, hfound, hnone]
      simp
    · rw [hsearch, Except.ok.injEq, Bool.eq_iff_iff, hfound, hfound]
      simp only [hperm.mem_iff]
  · intro item hitem h
    exact foundIn_of_mem hitem h
  · rintro rfl
    exact foundIn_iff.mpr ⟨"", " ".intercalate (t.items a), by simp⟩

/-- A value that two neighbours give only together is not found, and one that reaches over the spaces
around an empty item is. -/
theorem value_is_found_in_single_tag :
    let tagged : List String → Album := fun tags =>
      ⟨⟨1, by decide⟩, "n", "", "", "o", .midnight ⟨2022, 2, 1, by decide⟩, tags, [], []⟩
    let a := tagged ["ab", "", "é f"]
    (ItemField.tag.search .eq "bé").matches a = .ok false ∧
      (ItemField.tag.search .eq "é").matches a = .ok true ∧
      (ItemField.tag.search .eq "é").matches (tagged ["é f", "ab", ""]) = .ok true ∧
      (ItemField.tag.search .ne "é f").matches a = .ok false ∧
      (ItemField.tag.search .eq "b  é").matches a = .ok true ∧
      (ItemField.userPermissions.search .eq "").matches a = .ok true := by
  intro tagged a
  obtain ⟨apart, happart, -, hsingle, -, -, -⟩ := value_is_found_in_single_item .tag "bé" a
  obtain ⟨within, hwithin, -, hsingle', -, -, -⟩ := value_is_found_in_single_item .tag "é" a
  obtain ⟨spaced, -, hspaced, -, hitem, -, -⟩ := value_is_found_in_single_item .tag "é f" a
  obtain ⟨spans, hspans, -, -, -, -, hjoined⟩ := value_is_found_in_single_item .tag "b  é" a
  obtain ⟨empty, hempty, -, -, -, hnone, -⟩ := value_is_found_in_single_item .userPermissions "" a
  obtain ⟨happart', -, -⟩ := hsingle (by decide) (by decide)
  obtain ⟨hwithin', -, hperm⟩ := hsingle' (by decide) (by decide)
  have hfalse : apart = false := by
    rw [Bool.eq_false_iff, Ne, happart']
    simp only [occurs_iff_isInfix, ItemField.items, a, tagged]
    decide
  have htrue : within = true :=
    hwithin'.mpr ⟨"é f", by decide, "", " f", by decide⟩
  refine ⟨happart.trans (congrArg _ hfalse), hwithin.trans (congrArg _ htrue),
    (hperm _ (by decide)).trans (congrArg _ htrue), hspaced.trans ?_, hspans.trans ?_,
    hempty.trans (congrArg _ (hnone rfl))⟩
  · rw [hitem "é f" (by decide) ⟨"", "", by decide⟩]
    rfl
  · rw [hjoined.mpr ⟨"a", " f", by decide⟩]

end AlbumCatalog
