import AlbumCatalog.Proofs.JsonReading
import Mathlib.Data.List.Forall2

/-!
# Readers of lists and records

A list or an object is read piece by piece. What the pieces give is put together by `Each` for the
items of a list and by `Gathers` for the members of an object, up to the first piece that has a
fault. The members of a record that is written in order fill its slots one by one; `FillsAll` chains
the steps, so that each member is looked at alone.
-/

namespace AlbumCatalog

section Lists

variable {α : Type}

/-- Values and their texts one by one, and whether one of the texts is faulty. -/
inductive Each (R : α → Bool → List Char → Prop) : List α → Bool → List (List Char) → Prop
  | nil : Each R [] false []
  | cons {a : α} {as : List α} {faulty faulty' : Bool} {p : List Char} {ps : List (List Char)}
      (h : R a faulty p) (hps : Each R as faulty' ps) :
      Each R (a :: as) (faulty || faulty') (p :: ps)

lemma Each.imp {R R' : α → Bool → List Char → Prop} {as : List α} {faulty : Bool}
    {ps : List (List Char)} (h : Each R as faulty ps)
    (himp : ∀ a f, ∀ p ∈ ps, R a f p → R' a f p) : Each R' as faulty ps := by
  induction h with
  | nil => exact .nil
  | cons h _ ih =>
    refine .cons (himp _ _ _ List.mem_cons_self h) (ih fun a f p hp => ?_)
    exact himp a f p (List.mem_cons_of_mem _ hp)

lemma Each.of_forall₂ {R : α → Bool → List Char → Prop} {as : List α} {ps : List (List Char)}
    (h : List.Forall₂ (fun a p => R a false p) as ps) : Each R as false ps := by
  induction h with
  | nil => exact .nil
  | cons h _ ih => exact .cons h ih

/-! ### Lists -/

lemma skipJsonBlanks_item {b p : List Char} (hb : IsJsonBlanks b) (hp : IsItem p)
    (rest : List Char) : skipJsonBlanks (b ++ (p ++ rest)) = p ++ rest := by
  obtain ⟨c, p, rfl, hc, -⟩ := hp
  rw [skipJsonBlanks_append hb]
  exact skipJsonBlanks_cons hc _

lemma nextItem_close {b : List Char} (hb : IsJsonBlanks b) (first : Bool) (rest : List Char) :
    nextItem first (b ++ ']' :: rest) = .ok none := by
  rw [nextItem, skipJsonBlanks_append hb, skipJsonBlanks_cons rfl]
  rfl

lemma nextItem_first {b p : List Char} (hb : IsJsonBlanks b) (hp : IsItem p) (rest : List Char) :
    nextItem true (b ++ (p ++ rest)) = .ok (some (p ++ rest)) := by
  rw [nextItem, skipJsonBlanks_item hb hp]
  obtain ⟨c, p, rfl, -, hc⟩ := hp
  simp only [List.cons_append, if_neg hc, if_true]

lemma nextItem_further {b b' p : List Char} (hb : IsJsonBlanks b) (hb' : IsJsonBlanks b')
    (hp : IsItem p) (rest : List Char) :
    nextItem false (b ++ ',' :: (b' ++ (p ++ rest))) = .ok (some (p ++ rest)) := by
  rw [nextItem, skipJsonBlanks_append hb, skipJsonBlanks_cons rfl]
  have hcomma : (',' : Char) ≠ ']' := by decide
  simp only [skipJsonBlanks_item hb' hp, if_neg hcomma, Bool.false_eq_true, if_false, if_true]
  obtain ⟨c, p, rfl, -, hc⟩ := hp
  rw [List.cons_append]
  split
  · rename_i heq
    cases heq
  · rename_i heq
    cases heq
    exact absurd rfl hc
  · rfl

variable {item : JsonReader α} {bound n : Nat} {rest : List Char}

lemma readItems_close {before : List α} {b : List Char} (hb : IsJsonBlanks b) :
    readItems item (n + 1) before (b ++ ']' :: rest) = .ok (before.reverse, b ++ ']' :: rest) := by
  simp only [readItems, nextItem_close hb]
  rfl

lemma readItems_next {before : List α} {cs p : List Char} {a : α} {faulty : Bool}
    (hnext : nextItem before.isEmpty cs = .ok (some (p ++ rest))) (ha : Gives item p a faulty)
    (hrest : Delimits rest) : readItems item (n + 1) before cs =
      if faulty then .error .data else readItems item n (a :: before) rest := by
  have hitem := ha [] rest isJsonBlanks_nil hrest
  rw [List.nil_append] at hitem
  cases faulty <;> simp [readItems, hnext, bind, Except.bind, hitem]

/-- The items behind others are read up to the white space before the bracket, or up to the first
faulty one. -/
lemma readItems_further {as : List α} {faulty : Bool} {ps : List (List Char)} {ds : List Char}
    (h : Each (fun a f p => IsItem p ∧ Gives item p a f) as faulty ps) (hds : FurtherPieces ps ds)
    (rest : List Char) {before : List α} (hbefore : before ≠ []) (hn : ps.length < n) :
    ∃ b, IsJsonBlanks b ∧ readItems item n before (ds ++ ']' :: rest) =
      if faulty then .error .data else .ok (before.reverse ++ as, b ++ ']' :: rest) := by
  obtain ⟨n, rfl⟩ := Nat.exists_eq_succ_of_ne_zero (Nat.ne_of_gt (Nat.zero_lt_of_lt hn))
  induction h generalizing ds before n with
  | nil =>
    cases hds with
    | nil hb => exact ⟨ds, hb, by rw [readItems_close hb, List.append_nil]; rfl⟩
  | @cons a as faulty faulty' p ps hp _ ih =>
    cases hds with
    | @cons _ _ b b' ds hb hb' hps =>
      simp only [List.length_cons] at hn
      obtain ⟨n, rfl⟩ := Nat.exists_eq_succ_of_ne_zero (n := n) (by omega)
      have hnext := nextItem_further hb hb' hp.1 (ds ++ ']' :: rest)
      have hempty : before.isEmpty = false := by simpa using hbefore
      rw [← hempty] at hnext
      have hread := readItems_next (n := n + 1) hnext hp.2 (hps.delimits ']' (by decide) rest)
      simp only [List.append_assoc, List.cons_append]
      rw [hread]
      cases faulty with
      | true => exact ⟨[], isJsonBlanks_nil, rfl⟩
      | false =>
        obtain ⟨b'', hb'', hrest⟩ := ih hps (List.cons_ne_nil a before) n (by omega)
        refine ⟨b'', hb'', hrest.trans ?_⟩
        rw [List.reverse_cons, List.append_assoc, List.singleton_append, Bool.false_or]

lemma readItems_pieces {as : List α} {faulty : Bool} {ps : List (List Char)} {ds : List Char}
    (h : Each (fun a f p => IsItem p ∧ Gives item p a f) as faulty ps) (hds : Pieces ps ds)
    (rest : List Char) (hn : ps.length < n) : ∃ b, IsJsonBlanks b ∧
      readItems item n [] (ds ++ ']' :: rest) =
        if faulty then .error .data else .ok (as, b ++ ']' :: rest) := by
  obtain ⟨n, rfl⟩ := Nat.exists_eq_succ_of_ne_zero (Nat.ne_of_gt (Nat.zero_lt_of_lt hn))
  cases h with
  | nil =>
    cases hds with
    | nil hb => exact ⟨ds, hb, readItems_close hb⟩
  | @cons a as faulty faulty' p ps hp hps =>
    cases hds with
    | @cons _ _ b ds hb hds =>
      simp only [List.length_cons] at hn
      have hnext : nextItem ([] : List α).isEmpty _ = _ :=
        nextItem_first hb hp.1 (ds ++ ']' :: rest)
      have hread := readItems_next (n := n) hnext hp.2 (hds.delimits ']' (by decide) rest)
      simp only [List.append_assoc]
      rw [hread]
      cases faulty with
      | true => exact ⟨[], isJsonBlanks_nil, rfl⟩
      | false => exact readItems_further hps hds rest (List.cons_ne_nil a []) (by omega)

/-- A list gives its items, or the fault of the first one that has a fault. -/
lemma gives_list {as : List α} {faulty : Bool} {ps : List (List Char)} {ds : List Char}
    (h : Each (fun a f p => IsItem p ∧ Gives item p a f) as faulty ps) (hds : Pieces ps ds)
    (hbound : ds.length + 2 ≤ bound) :
    Gives (readList bound item) ('[' :: (ds ++ [']'])) as faulty := by
  intro b rest hb _
  have hlength := hds.length_le.1
  obtain ⟨b', hb', hread⟩ := readItems_pieces h hds rest (n := bound) (by omega)
  rw [readList, skipJsonBlanks_append hb, List.cons_append, skipJsonBlanks_cons rfl]
  simp only [List.append_assoc, List.singleton_append, hread]
  cases faulty with
  | true => rfl
  | false =>
    simp only [bind, Except.bind, closeList, skipJsonBlanks_append hb', Bool.false_eq_true,
      if_false, skipJsonBlanks_cons (show isJsonBlank ']' = false from rfl)]

lemma decodes_list {f : α → Json} (hitem : ∀ x, Decodes bound item (f x) x) (xs : List α) :
    Decodes bound (readList bound item) (.array (xs.map f)) xs := by
  intro cs h hlen
  cases h with
  | array h =>
    obtain ⟨ps, hps, hds⟩ := h.pieces
    rw [List.forall₂_map_left_iff] at hps
    simp only [List.length_cons, List.length_append, List.length_nil] at hlen
    have heach : Each (fun x faulty p => faulty = false ∧ JsonText (f x) p) xs false ps :=
      .of_forall₂ (hps.imp fun x p hp => ⟨rfl, hp⟩)
    refine gives_false.mp (gives_list (heach.imp ?_) hds (by omega))
    rintro x faulty p hp ⟨rfl, htext⟩
    have hlength := hds.length_le.2 p hp
    exact ⟨htext.isItem, gives_false.mpr (hitem x p htext (by omega))⟩

end Lists

/-! ### Records -/

section Records

variable {α σ : Type}

/-- The value of a key, wherever it is laid out behind the key, takes the record from one state of
its slots to the next. -/
def Fills (bound : Nat) (member : σ → String → JsonReader σ) (s : σ) (m : String × Json) (s' : σ) :
    Prop :=
  ∀ gap gap' cs rest, IsJsonBlanks gap → IsJsonBlanks gap' → JsonText m.2 cs → cs.length ≤ bound →
    Delimits rest → member s m.1 (gap ++ ':' :: (gap' ++ (cs ++ rest))) = .ok (s', rest)

inductive FillsAll (bound : Nat) (member : σ → String → JsonReader σ) :
    σ → List (String × Json) → σ → Prop
  | nil (s : σ) : FillsAll bound member s [] s
  | cons {s s' s'' : σ} {m : String × Json} {ms : List (String × Json)}
      (h : Fills bound member s m s') (hms : FillsAll bound member s' ms s'') :
      FillsAll bound member s (m :: ms) s''

lemma FillsAll.append {bound : Nat} {member : σ → String → JsonReader σ} {s s' s'' : σ}
    {ms ms' : List (String × Json)} (h : FillsAll bound member s ms s')
    (h' : FillsAll bound member s' ms' s'') : FillsAll bound member s (ms ++ ms') s'' := by
  induction h with
  | nil s => exact h'
  | cons hfill _ ih => exact .cons hfill (ih h')

/-- The value behind a colon is read into a slot that is empty. -/
lemma fillSlot_of_gives {value : JsonReader α} {gap gap' cs rest : List Char} {a : α}
    {faulty : Bool} (hgap : IsJsonBlanks gap) (hgap' : IsJsonBlanks gap')
    (h : Gives value cs a faulty) (hrest : Delimits rest) :
    fillSlot none value (gap ++ ':' :: (gap' ++ (cs ++ rest))) =
      if faulty then .error .data else .ok (some a, rest) := by
  simp only [fillSlot, Option.isSome_none, Bool.false_eq_true, if_false, readColon_append hgap,
    bind, Except.bind, h gap' rest hgap' hrest]
  cases faulty <;> rfl

variable {bound : Nat} {member : σ → String → JsonReader σ}

/-- A member whose slot is empty fills it with the value that it is taken for. -/
lemma fills_slot {s : σ} {key : String} {v : Json} {value : JsonReader α} {a : α}
    (slot : σ → Option α) (put : σ → Option α → σ) (hslot : slot s = none)
    (hmember : ∀ s cs, member s key cs = do
      let (x, rest) ← fillSlot (slot s) value cs
      .ok (put s x, rest))
    (hvalue : Decodes bound value v a) :
    Fills bound member s (key, v) (put s (some a)) := by
  intro gap gap' cs rest hgap hgap' hv hlen hrest
  rw [hmember, hslot, fillSlot_of_gives hgap hgap' (gives_false.mpr (hvalue cs hv hlen)) hrest]
  rfl

lemma nextKey_close {b : List Char} (hb : IsJsonBlanks b) (first : Bool) (rest : List Char) :
    nextKey first (b ++ '\x7d' :: rest) = .ok none := by
  rw [nextKey, skipJsonBlanks_append hb, skipJsonBlanks_cons rfl]
  rfl

lemma nextKey_first {b : List Char} (hb : IsJsonBlanks b) (rest : List Char) :
    nextKey true (b ++ '"' :: rest) = .ok (some rest) := by
  rw [nextKey, skipJsonBlanks_append hb, skipJsonBlanks_cons rfl]
  rfl

lemma nextKey_further {b b' : List Char} (hb : IsJsonBlanks b) (hb' : IsJsonBlanks b')
    (rest : List Char) : nextKey false (b ++ ',' :: (b' ++ '"' :: rest)) = .ok (some rest) := by
  rw [nextKey, skipJsonBlanks_append hb, skipJsonBlanks_cons rfl]
  simp only [skipJsonBlanks_append hb', skipJsonBlanks_cons (show isJsonBlank '"' = false from rfl)]
  rfl

/-- The member that the text holds leads from one state of the slots to the next, or to a fault. -/
def Leads (member : σ → String → JsonReader σ) (s : σ) (p : List Char) (r : Except JsonFault σ) :
    Prop :=
  ∃ key k value, p = k ++ value ∧ Quotes key k ∧
    ∀ rest, Delimits rest → member s key (value ++ rest) = (·, rest) <$> r

/-- The members lead to a record, or to the fault of a member or of the record as a whole. -/
inductive Gathers (member : σ → String → JsonReader σ) (finish : σ → Except JsonFault α) :
    σ → List (List Char) → α → Bool → Prop
  | finished {s : σ} {a : α} (h : finish s = .ok a) : Gathers member finish s [] a false
  | unfinished {s : σ} {a : α} (h : finish s = .error .data) : Gathers member finish s [] a true
  | step {s s' : σ} {a : α} {faulty : Bool} {p : List Char} {ps : List (List Char)}
      (h : Leads member s p (.ok s')) (hps : Gathers member finish s' ps a faulty) :
      Gathers member finish s (p :: ps) a faulty
  | fault {s : σ} {a : α} {p : List Char} {ps : List (List Char)}
      (h : Leads member s p (.error .data)) : Gathers member finish s (p :: ps) a true

lemma readMembers_next {first : Bool} {s : σ} {cs p rest : List Char} {r : Except JsonFault σ}
    (h : Leads member s p r)
    (hnext : ∀ ks, p = '"' :: ks → nextKey first cs = .ok (some (ks ++ rest)))
    (hrest : Delimits rest) (n : Nat) : readMembers member (n + 1) first s cs =
      r >>= fun s' => readMembers member n false s' rest := by
  obtain ⟨key, k, value, rfl, hk, hvalue⟩ := h
  obtain ⟨ks, rfl, hkey⟩ := hk.read
  have hcs := hnext (ks ++ value) rfl
  rw [List.append_assoc] at hcs
  simp only [readMembers, hcs, bind, Except.bind, hkey, hvalue rest hrest]
  cases r <;> rfl

/-- What is left of a record behind its members. -/
def endRecord (finish : σ → Except JsonFault α) (x : σ × List Char) :
    Except JsonFault (α × List Char) := do
  let a ← finish x.1
  let rest ← closeObject x.2
  .ok (a, rest)

variable {finish : σ → Except JsonFault α}

lemma readMembers_close {s : σ} {a : α} {faulty : Bool} {b rest : List Char} (hb : IsJsonBlanks b)
    (h : Gathers member finish s [] a faulty) (first : Bool) (n : Nat) :
    readMembers member (n + 1) first s (b ++ '\x7d' :: rest) >>= endRecord finish =
      if faulty then .error .data else .ok (a, rest) := by
  have hclose : closeObject (b ++ '\x7d' :: rest) = .ok rest := by
    simp only [closeObject, skipJsonBlanks_append hb,
      skipJsonBlanks_cons (show isJsonBlank '\x7d' = false from rfl)]
  cases h with
  | finished h => simp [readMembers, nextKey_close hb, bind, Except.bind, endRecord, h, hclose]
  | unfinished h => simp [readMembers, nextKey_close hb, bind, Except.bind, endRecord, h]

lemma readMembers_further {s : σ} {ps : List (List Char)} {a : α} {faulty : Bool}
    (h : Gathers member finish s ps a faulty) {ds : List Char} (hds : FurtherPieces ps ds)
    (rest : List Char) {n : Nat} (hn : ps.length < n) :
    readMembers member n false s (ds ++ '\x7d' :: rest) >>= endRecord finish =
      if faulty then .error .data else .ok (a, rest) := by
  obtain ⟨n, rfl⟩ := Nat.exists_eq_succ_of_ne_zero (Nat.ne_of_gt (Nat.zero_lt_of_lt hn))
  induction ps generalizing s ds n with
  | nil =>
    cases hds with
    | nil hb => exact readMembers_close hb h false n
  | cons p ps ih =>
    cases hds with
    | @cons _ _ b b' ds hb hb' hps =>
      simp only [List.length_cons] at hn
      obtain ⟨n, rfl⟩ := Nat.exists_eq_succ_of_ne_zero (n := n) (by omega)
      have hnext : ∀ ks, p = '"' :: ks →
          nextKey false (b ++ ',' :: (b' ++ (p ++ (ds ++ '\x7d' :: rest)))) =
            .ok (some (ks ++ (ds ++ '\x7d' :: rest))) := by
        rintro ks rfl
        exact nextKey_further hb hb' _
      have hrest := hps.delimits '\x7d' (by decide) rest
      simp only [List.append_assoc, List.cons_append]
      cases h with
      | step hp hgathers =>
        rw [readMembers_next hp hnext hrest]
        exact ih hgathers hps n (by omega)
      | fault hp =>
        rw [readMembers_next hp hnext hrest]
        rfl

/-- A record gives what its members lead to. -/
lemma gives_record {fields : JsonReader α} {start : σ} {ps : List (List Char)} {a : α}
    {faulty : Bool} {ds : List Char} (h : Gathers member finish start ps a faulty)
    (hds : Pieces ps ds) (hbound : ds.length + 2 ≤ bound) :
    Gives (readRecord bound fields member start finish) ('\x7b' :: (ds ++ ['\x7d'])) a faulty := by
  intro b rest hb _
  have hlength := hds.length_le.1
  obtain ⟨n, rfl⟩ := Nat.exists_eq_succ_of_ne_zero (n := bound) (by omega)
  rw [readRecord, skipJsonBlanks_append hb, List.cons_append, skipJsonBlanks_cons rfl,
    List.append_assoc, List.singleton_append]
  change readMembers member (n + 1) true start _ >>= endRecord finish = _
  cases hds with
  | nil hb => exact readMembers_close hb h true n
  | @cons p ps b ds hb hps =>
    simp only [List.length_cons] at hlength
    have hnext : ∀ ks, p = '"' :: ks → nextKey true (b ++ (p ++ (ds ++ '\x7d' :: rest))) =
        .ok (some (ks ++ (ds ++ '\x7d' :: rest))) := by
      rintro ks rfl
      exact nextKey_first hb _
    have hrest := hps.delimits '\x7d' (by decide) rest
    simp only [List.append_assoc]
    cases h with
    | step hp hgathers =>
      rw [readMembers_next hp hnext hrest]
      exact readMembers_further hgathers hps rest (by omega)
    | fault hp =>
      rw [readMembers_next hp hnext hrest]
      rfl

lemma Fills.leads {s s' : σ} {m : String × Json} {p : List Char} (h : Fills bound member s m s')
    (hp : IsMember m p) (hlen : p.length ≤ bound) : Leads member s p (.ok s') := by
  obtain ⟨rfl, hgap, hgap', hv⟩ := hp
  refine ⟨m.1, _, _, rfl, quotes_jsonString m.1, fun rest hrest => ?_⟩
  simp only [List.length_append, List.length_cons] at hlen
  simp only [List.append_assoc, List.cons_append]
  exact h _ _ _ rest hgap hgap' hv (by omega) hrest

lemma FillsAll.gathers {s s' : σ} {ms : List (String × Json)} {ps : List (List Char)} {a : α}
    (h : FillsAll bound member s ms s') (hps : List.Forall₂ IsMember ms ps)
    (hlen : ∀ p ∈ ps, p.length ≤ bound) (hfinish : finish s' = .ok a) :
    Gathers member finish s ps a false := by
  induction h generalizing ps with
  | nil s =>
    cases hps
    exact .finished hfinish
  | cons hfill _ ih =>
    cases hps with
    | cons hp hps =>
      refine .step (hfill.leads hp (hlen _ List.mem_cons_self)) ?_
      exact ih hps (fun p hp => hlen p (List.mem_cons_of_mem _ hp)) hfinish

/-- A record is taken if its members fill the slots from the start to a state that gives it. -/
lemma decodes_record {fields : JsonReader α} {start s : σ} {a : α} {ms : List (String × Json)}
    (hfills : FillsAll bound member start ms s) (hfinish : finish s = .ok a) :
    Decodes bound (readRecord bound fields member start finish) (.object ms) a := by
  intro cs h hlen
  cases h with
  | object h =>
    obtain ⟨ps, hps, hds⟩ := h.pieces
    simp only [List.length_cons, List.length_append, List.length_nil] at hlen
    have hpieces : ∀ p ∈ ps, p.length ≤ bound := by
      intro p hp
      have := hds.length_le.2 p hp
      omega
    exact gives_false.mp (gives_record (hfills.gathers hps hpieces hfinish) hds (by omega))

end Records

/-! ### Documents -/

lemma readDocument_gives {α : Type} {value : Nat → JsonReader α} {text : String} {a : α}
    {faulty : Bool} {cs b b' : List Char} (htext : text.toList = b ++ (cs ++ b'))
    (hb : IsJsonBlanks b) (hb' : IsJsonBlanks b')
    (h : ∀ bound, cs.length ≤ bound → Gives (value bound) cs a faulty) :
    readDocument value text = if faulty then .error .data else .ok a := by
  have hlen : cs.length ≤ text.toList.length + 1 := by
    rw [htext]
    simp only [List.length_append]
    omega
  have hnil : Delimits [] := by
    intro c hc
    cases hc
  have hrest := delimits_blanks hb' hnil
  rw [List.append_nil] at hrest
  have hread := h _ hlen b b' hb hrest
  have hend : skipJsonBlanks b' = [] := List.dropWhile_eq_nil_iff.mpr hb'
  rw [← htext] at hread
  cases faulty <;> simp [readDocument, hread, bind, Except.bind, hend]

lemma readDocument_text {α : Type} {value : Nat → JsonReader α} {text : String} {v : Json} {a : α}
    {cs b b' : List Char} (htext : text.toList = b ++ (cs ++ b')) (hb : IsJsonBlanks b)
    (hb' : IsJsonBlanks b') (hcs : JsonText v cs) (h : ∀ bound, Decodes bound (value bound) v a) :
    readDocument value text = .ok a :=
  readDocument_gives htext hb hb' fun bound hlen => gives_false.mpr (h bound cs hcs hlen)

end AlbumCatalog
