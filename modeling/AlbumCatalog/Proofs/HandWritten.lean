import AlbumCatalog.Proofs.JsonRecords
import AlbumCatalog.Proofs.JsonSkipping

/-!
# Records that are written by hand

A record that is written by hand holds its members in any order, between members that mean nothing,
and may leave out those that are empty. It is faulty if one of its values is, if it lacks a member
that it must have, or if it holds a member twice. The reader keeps the members that it has seen, so
the induction is on the members that are left, over every list of names seen before them.
-/

namespace AlbumCatalog

/-- A member that a record may have. -/
structure Slot where
  name : String
  /-- The texts that are its value, and whether they are faulty. -/
  value : Bool → List Char → Prop
  /-- Whether there is no record without it. -/
  required : Bool
  /-- Whether it may be left out. -/
  empty : Prop

/-- The members of a record behind those of the given names, and whether they are faulty. -/
inductive Members (slots : List Slot) : List String → Bool → List (List Char) → Prop
  | complete {seen : List String} (h : ∀ slot ∈ slots, slot.name ∈ seen ∨ slot.empty) :
      Members slots seen false []
  | lacking {seen : List String} {slot : Slot} (hslot : slot ∈ slots) (hrequired : slot.required)
      (h : slot.name ∉ seen) : Members slots seen true []
  | own {seen : List String} {slot : Slot} {faulty faulty' : Bool} {p : List Char}
      {ps : List (List Char)} (hslot : slot ∈ slots) (hnew : slot.name ∉ seen)
      (hp : MemberText (Quotes slot.name) (slot.value faulty) p)
      (hps : Members slots (slot.name :: seen) faulty' ps) :
      Members slots seen (faulty || faulty') (p :: ps)
  | stranger {seen : List String} {name : String} {faulty : Bool} {p : List Char}
      {ps : List (List Char)} (hname : ∀ slot ∈ slots, slot.name ≠ name)
      (hp : MemberText (Quotes name) ValueText p) (hps : Members slots seen faulty ps) :
      Members slots seen faulty (p :: ps)
  | repeated {seen : List String} {slot : Slot} {faulty : Bool} {p : List Char}
      {ps : List (List Char)} (hslot : slot ∈ slots) (hseen : slot.name ∈ seen)
      (hp : MemberText (Quotes slot.name) ValueText p) (hps : Members slots seen faulty ps) :
      Members slots seen true (p :: ps)

inductive RecordText (slots : List Slot) (faulty : Bool) : List Char → Prop
  | mk {ps : List (List Char)} {ds : List Char} (hps : Members slots [] faulty ps)
      (hds : Pieces ps ds) : RecordText slots faulty ('\x7b' :: (ds ++ ['\x7d']))

inductive ListText {α : Type} (R : α → Bool → List Char → Prop) (as : List α) (faulty : Bool) :
    List Char → Prop
  | mk {ps : List (List Char)} {ds : List Char} (hps : Each R as faulty ps) (hds : Pieces ps ds) :
      ListText R as faulty ('[' :: (ds ++ [']']))

/-- The texts of a value that has no members, which are never faulty. -/
def plainText (v : Json) (faulty : Bool) (cs : List Char) : Prop :=
  faulty = false ∧ JsonText v cs

lemma RecordText.isItem {slots : List Slot} {faulty : Bool} {cs : List Char}
    (h : RecordText slots faulty cs) : IsItem cs := by
  obtain ⟨-, -⟩ := h
  exact ⟨_, _, rfl, rfl, by decide⟩

/-! ### What the writer writes -/

lemma listText_of_jsonText {α : Type} {R : α → Bool → List Char → Prop} {f : α → Json}
    (hR : ∀ a cs, JsonText (f a) cs → R a false cs) {as : List α} {cs : List Char}
    (h : JsonText (.array (as.map f)) cs) : ListText R as false cs := by
  cases h with
  | array h =>
    obtain ⟨ps, hps, hds⟩ := h.pieces
    rw [List.forall₂_map_left_iff] at hps
    exact .mk (.of_forall₂ (hps.imp hR)) hds

/-- The members of the slots that are left, in their order, complete a record. -/
lemma members_of_isMember {slots rest : List Slot} {seen : List String}
    {ms : List (String × Json)} {ps : List (List Char)}
    (hms : List.Forall₂ (fun slot m => slot ∈ slots ∧ slot.name = m.1 ∧
      ∀ cs, JsonText m.2 cs → slot.value false cs) rest ms)
    (hps : List.Forall₂ IsMember ms ps)
    (hnew : (rest.map Slot.name).Nodup ∧ ∀ slot ∈ rest, slot.name ∉ seen)
    (hall : ∀ slot ∈ slots, slot.name ∈ seen ∨ slot ∈ rest) : Members slots seen false ps := by
  induction hms generalizing seen ps with
  | nil =>
    cases hps
    exact .complete fun slot hslot => (hall slot hslot).imp_right fun h => absurd h List.not_mem_nil
  | @cons slot m rest ms hm _ ih =>
    cases hps with
    | cons hp hps =>
      obtain ⟨hslot, hname, hvalue⟩ := hm
      obtain ⟨hnodup, hfresh⟩ := hnew
      rw [List.map_cons, List.nodup_cons] at hnodup
      obtain ⟨rfl, hgap, hgap', hv⟩ := hp
      have hk : Quotes slot.name (jsonString m.1) := by
        rw [hname]
        exact quotes_jsonString m.1
      refine .own hslot (hfresh slot List.mem_cons_self) (.mk hk hgap hgap' (hvalue _ hv))
        (ih hps ⟨hnodup.2, fun next hnext => ?_⟩ fun next hnext => ?_)
      · rw [List.mem_cons, not_or]
        refine ⟨fun heq => hnodup.1 (heq ▸ List.mem_map_of_mem hnext), ?_⟩
        exact hfresh next (List.mem_cons_of_mem _ hnext)
      · rw [List.mem_cons]
        rcases hall next hnext with hseen | hrest
        · exact .inl (.inr hseen)
        · rcases List.mem_cons.mp hrest with rfl | hrest
          · exact .inl (.inl rfl)
          · exact .inr hrest

/-- A record that is written in the order of its slots is written as by hand. -/
lemma recordText_of_jsonText {slots : List Slot} {ms : List (String × Json)} {cs : List Char}
    (hms : List.Forall₂ (fun slot m => slot ∈ slots ∧ slot.name = m.1 ∧
      ∀ cs, JsonText m.2 cs → slot.value false cs) slots ms)
    (hnodup : (slots.map Slot.name).Nodup) (h : JsonText (.object ms) cs) :
    RecordText slots false cs := by
  cases h with
  | object h =>
    obtain ⟨ps, hps, hds⟩ := h.pieces
    refine .mk (members_of_isMember hms hps ⟨hnodup, fun _ _ => List.not_mem_nil⟩ ?_) hds
    exact fun slot hslot => .inr hslot

section Reading

variable {α σ : Type} {bound : Nat}

lemma gives_plain {r : JsonReader α} {v : Json} {a : α} (h : Decodes bound r v a) {faulty : Bool}
    {cs : List Char} (hcs : plainText v faulty cs) (hlen : cs.length ≤ bound) :
    Gives r cs a faulty := by
  obtain ⟨rfl, htext⟩ := hcs
  exact gives_false.mpr (h cs htext hlen)

lemma gives_listText {item : JsonReader α} {R : α → Bool → List Char → Prop}
    (hitem : ∀ a faulty p, R a faulty p → p.length ≤ bound → IsItem p ∧ Gives item p a faulty)
    {as : List α} {faulty : Bool} {cs : List Char} (h : ListText R as faulty cs)
    (hlen : cs.length ≤ bound) : Gives (readList bound item) cs as faulty := by
  obtain ⟨hps, hds⟩ := h
  simp only [List.length_cons, List.length_append, List.length_nil] at hlen
  refine gives_list (hps.imp fun a f p hp hR => hitem a f p hR ?_) hds (by omega)
  have := hds.length_le.2 p hp
  omega

/-- What a slot holds of a value once its name has been seen. -/
def keep (seen : List String) (name : String) (x : α) : Option α :=
  if name ∈ seen then some x else none

section Keep

variable {seen : List String} {name : String} {x : α}

lemma keep_of_mem (h : name ∈ seen) : keep seen name x = some x :=
  if_pos h

lemma keep_of_not_mem (h : name ∉ seen) : keep seen name x = none :=
  if_neg h

@[simp]
lemma keep_cons_self : keep (name :: seen) name x = some x :=
  keep_of_mem List.mem_cons_self

@[simp]
lemma keep_cons_of_ne {name' : String} (h : name ≠ name') :
    keep (name' :: seen) name x = keep seen name x := by
  simp [keep, h]

lemma getD_keep {d : α} (h : name ∈ seen ∨ x = d) : (keep seen name x).getD d = x := by
  by_cases hseen : name ∈ seen
  · rw [keep_of_mem hseen, Option.getD_some]
  · rw [keep_of_not_mem hseen, Option.getD_none, h.resolve_left hseen]

end Keep

/-- The member of the slot fills its part of the state, which holds a value if and only if the name
has been seen. -/
inductive ReadsSlot (bound : Nat) (member : σ → String → JsonReader σ) (state : List String → σ)
    (slot : Slot) : Prop
  | mk {β : Type} {value : JsonReader β} {x : β} (get : σ → Option β) (put : σ → Option β → σ)
      (hmember : ∀ s cs, member s slot.name cs = do
        let (y, rest) ← fillSlot (get s) value cs
        .ok (put s y, rest))
      (hget : ∀ seen, get (state seen) = keep seen slot.name x)
      (hput : ∀ seen, put (state seen) (some x) = state (slot.name :: seen))
      (hvalue : ∀ faulty cs, slot.value faulty cs → cs.length ≤ bound → Gives value cs x faulty)

/-- A record is read by its slots: after the names that have been seen, the members lead to the
state of those names, and the state at the end decides whether there is a record. -/
structure ReadsBySlots (slots : List Slot) (bound : Nat) (member : σ → String → JsonReader σ)
    (finish : σ → Except JsonFault α) (state : List String → σ) (a : α) : Prop where
  slot : ∀ slot ∈ slots, ReadsSlot bound member state slot
  stranger : ∀ name, (∀ slot ∈ slots, slot.name ≠ name) → ∀ s cs,
    member s name cs = do .ok (s, ← skipSlot bound cs)
  complete : ∀ seen, (∀ slot ∈ slots, slot.name ∈ seen ∨ slot.empty) → finish (state seen) = .ok a
  lacking : ∀ slot ∈ slots, slot.required → ∀ seen, slot.name ∉ seen →
    finish (state seen) = .error .data

namespace ReadsBySlots

variable {slots : List Slot} {member : σ → String → JsonReader σ}
  {finish : σ → Except JsonFault α} {s : List String → σ} {a : α}
  (h : ReadsBySlots slots bound member finish s a) {seen : List String} {p : List Char}
include h

lemma leads_own {slot : Slot} (hslot : slot ∈ slots) (hnew : slot.name ∉ seen) {faulty : Bool}
    (hp : MemberText (Quotes slot.name) (slot.value faulty) p) (hlen : p.length ≤ bound) :
    Leads member (s seen) p
      (if faulty then .error .data else .ok (s (slot.name :: seen))) := by
  obtain ⟨get, put, hmember, hget, hput, hvalue⟩ := h.slot slot hslot
  obtain ⟨hk, hgap, hgap', hv⟩ := hp
  refine ⟨slot.name, _, _, rfl, hk, fun rest hrest => ?_⟩
  simp only [List.length_append, List.length_cons] at hlen
  have hread := fillSlot_of_gives hgap hgap' (hvalue faulty _ hv (by omega)) hrest
  simp only [List.append_assoc, List.cons_append]
  rw [hmember, hget, keep, if_neg hnew, hread]
  cases faulty with
  | true => rfl
  | false =>
    rw [← hput]
    rfl

lemma leads_repeated {slot : Slot} (hslot : slot ∈ slots) (hseen : slot.name ∈ seen)
    (hp : MemberText (Quotes slot.name) ValueText p) :
    Leads member (s seen) p (.error .data) := by
  obtain ⟨get, put, hmember, hget, -, -⟩ := h.slot slot hslot
  obtain ⟨hk, -, -, -⟩ := hp
  refine ⟨slot.name, _, _, rfl, hk, fun rest _ => ?_⟩
  rw [hmember, hget, keep, if_pos hseen]
  rfl

lemma leads_stranger {name : String} (hname : ∀ slot ∈ slots, slot.name ≠ name)
    (hp : MemberText (Quotes name) ValueText p) (hlen : p.length ≤ bound) :
    Leads member (s seen) p (.ok (s seen)) := by
  obtain ⟨hk, hgap, hgap', hv⟩ := hp
  refine ⟨name, _, _, rfl, hk, fun rest hrest => ?_⟩
  simp only [List.length_append, List.length_cons] at hlen
  simp only [List.append_assoc, List.cons_append]
  rw [h.stranger name hname, skipSlot_append hgap hgap' hv (by omega) hrest]
  rfl

/-- From any names seen before, the members lead to the record, or to the first fault. -/
lemma gathers {faulty : Bool} {ps : List (List Char)} (hps : Members slots seen faulty ps)
    (hlen : ∀ p ∈ ps, p.length ≤ bound) : Gathers member finish (s seen) ps a faulty := by
  induction hps with
  | complete hall => exact .finished (h.complete _ hall)
  | lacking hslot hrequired hnew => exact .unfinished (h.lacking _ hslot hrequired _ hnew)
  | @own seen slot faulty faulty' p ps hslot hnew hp _ ih =>
    have hleads := h.leads_own hslot hnew hp (hlen p List.mem_cons_self)
    cases faulty with
    | true => exact .fault hleads
    | false => exact .step hleads (ih fun p hp => hlen p (List.mem_cons_of_mem _ hp))
  | stranger hname hp _ ih =>
    refine .step (h.leads_stranger hname hp (hlen _ List.mem_cons_self)) ?_
    exact ih fun p hp => hlen p (List.mem_cons_of_mem _ hp)
  | repeated hslot hseen hp _ _ => exact .fault (h.leads_repeated hslot hseen hp)

/-- A record gives its value in every order of its members, unless it is faulty. -/
lemma gives {fields : JsonReader α} {start : σ} (hstart : s [] = start) {faulty : Bool}
    {cs : List Char} (hcs : RecordText slots faulty cs) (hlen : cs.length ≤ bound) :
    Gives (readRecord bound fields member start finish) cs a faulty := by
  obtain ⟨hps, hds⟩ := hcs
  subst hstart
  simp only [List.length_cons, List.length_append, List.length_nil] at hlen
  refine gives_record (h.gathers hps fun p hp => ?_) hds (by omega)
  have := hds.length_le.2 p hp
  omega

end ReadsBySlots

end Reading

end AlbumCatalog
