import AlbumCatalog.Proofs.JsonReading

/-!
# Values that nobody needs are skipped

Every well-formed value is skipped up to the character behind it, however deep its lists and objects
are nested and whatever its strings and numbers would stand for.
-/

namespace AlbumCatalog

/-! ### Numbers -/

/-- The text behind digits, of which there must be one. -/
def skipDigits : List Char → Except JsonFault (List Char)
  | c :: rest => if c.isDigit then .ok (rest.dropWhile Char.isDigit) else .error .grammar
  | [] => .error .grammar

/-- The text behind the digits before the point. -/
def skipWhole : List Char → Except JsonFault (List Char)
  | '0' :: rest =>
    match rest with
    | c :: _ => if c.isDigit then .error .grammar else .ok rest
    | [] => .ok []
  | c :: rest => if c.isDigit then .ok (rest.dropWhile Char.isDigit) else .error .grammar
  | [] => .error .grammar

/-- The text behind the sign and the digits of an exponent. -/
def skipSigned : List Char → Except JsonFault (List Char)
  | '-' :: rest | '+' :: rest => skipDigits rest
  | rest => skipDigits rest

/-- The text behind an exponent, if there is one. -/
def skipExponent : List Char → Except JsonFault (List Char)
  | 'e' :: rest | 'E' :: rest => skipSigned rest
  | rest => .ok rest

/-- The text behind a fraction, if there is one, and an exponent, if there is one. -/
def skipFraction : List Char → Except JsonFault (List Char)
  | '.' :: rest => skipDigits rest >>= skipExponent
  | rest => skipExponent rest

lemma skipMagnitude_eq (cs : List Char) : skipMagnitude cs = skipWhole cs >>= skipFraction := by
  unfold skipMagnitude
  extract_lets whole digits signed
  -- the parts it names are the functions above
  have hwhole : whole = skipWhole cs := rfl
  have hdigits : digits = skipDigits := rfl
  have hsigned : signed = skipSigned := rfl
  rw [hwhole, hdigits, hsigned]
  cases skipWhole cs with
  | error e => rfl
  | ok rest =>
    change _ = skipFraction rest
    simp only [skipFraction, skipExponent, bind, Except.bind]
    grind

lemma skipDigits_append {ds rest : List Char} (hds : IsDigits ds)
    (hrest : ∀ c ∈ rest.head?, c.isDigit = false) : skipDigits (ds ++ rest) = .ok rest := by
  obtain ⟨c, ds, rfl⟩ := List.exists_cons_of_ne_nil hds.1
  obtain ⟨-, hdrop⟩ := takeWhile_isDigit (fun d hd => hds.2 d (List.mem_cons_of_mem c hd)) hrest
  rw [List.cons_append, skipDigits, if_pos (hds.2 c List.mem_cons_self), hdrop]

lemma skipWhole_append {cs rest : List Char} (hcs : IsWhole cs)
    (hrest : ∀ c ∈ rest.head?, c.isDigit = false) : skipWhole (cs ++ rest) = .ok rest := by
  rcases hcs with rfl | ⟨hdigits, hzero⟩
  · cases rest with
    | nil => rfl
    | cons c rest =>
      change (if c.isDigit then _ else _) = _
      rw [hrest c rfl]
      rfl
  · have hskip := skipDigits_append hdigits hrest
    obtain ⟨c, cs, rfl⟩ := List.exists_cons_of_ne_nil hdigits.1
    have hc : c ≠ '0' := by
      rintro rfl
      exact hzero rfl
    rw [List.cons_append] at hskip ⊢
    unfold skipWhole
    split
    · rename_i heq
      cases heq
      exact absurd rfl hc
    · rename_i heq
      cases heq
      exact hskip
    · rename_i heq
      cases heq

lemma skipSigned_append {sign ds rest : List Char} (hsign : sign ∈ [[], ['+'], ['-']])
    (hds : IsDigits ds) (hrest : ∀ c ∈ rest.head?, c.isDigit = false) :
    skipSigned (sign ++ (ds ++ rest)) = .ok rest := by
  have hskip := skipDigits_append hds hrest
  simp only [List.mem_cons, List.not_mem_nil, or_false] at hsign
  rcases hsign with rfl | rfl | rfl
  · obtain ⟨c, ds, rfl⟩ := List.exists_cons_of_ne_nil hds.1
    have hc := hds.2 c List.mem_cons_self
    rw [List.nil_append]
    unfold skipSigned
    split
    · rename_i heq
      cases heq
      cases hc
    · rename_i heq
      cases heq
      cases hc
    · exact hskip
  · exact hskip
  · exact hskip

lemma skipExponent_append {cs rest : List Char} (hcs : IsExponent cs) (hrest : Delimits rest) :
    skipExponent (cs ++ rest) = .ok rest := by
  rcases hcs with rfl | ⟨e, sign, ds, rfl, he, hsign, hds⟩
  · rw [List.nil_append]
    unfold skipExponent
    split
    · exact absurd rfl (hrest 'e' rfl).2.2.1
    · exact absurd rfl (hrest 'E' rfl).2.2.2
    · rfl
  · have hskip := skipSigned_append hsign hds fun c hc => (hrest c hc).1
    simp only [List.mem_cons, List.not_mem_nil, or_false] at he
    rw [List.cons_append, List.append_assoc]
    rcases he with rfl | rfl <;> exact hskip

/-- An exponent, or what stands behind it, goes on neither with a digit nor with a point. -/
lemma head_exponent_append {cs rest : List Char} (hcs : IsExponent cs) (hrest : Delimits rest) :
    ∀ c ∈ (cs ++ rest).head?, c.isDigit = false ∧ c ≠ '.' := by
  rcases hcs with rfl | ⟨e, sign, ds, rfl, he, -, -⟩
  · exact fun c hc => ⟨(hrest c hc).1, (hrest c hc).2.1⟩
  · intro c hc
    cases hc
    simp only [List.mem_cons, List.not_mem_nil, or_false] at he
    rcases he with rfl | rfl <;> decide

lemma skipFraction_append {fraction exponent rest : List Char} (hfraction : IsFraction fraction)
    (hexponent : IsExponent exponent) (hrest : Delimits rest) :
    skipFraction (fraction ++ (exponent ++ rest)) = .ok rest := by
  have hskip := skipExponent_append hexponent hrest
  have hbehind := head_exponent_append hexponent hrest
  rcases hfraction with rfl | ⟨ds, rfl, hds⟩
  · rw [List.nil_append]
    unfold skipFraction
    split
    · rename_i heq
      exact absurd rfl (hbehind '.' (by rw [heq]; rfl)).2
    · exact hskip
  · rw [List.cons_append]
    change skipDigits (ds ++ (exponent ++ rest)) >>= skipExponent = _
    rw [skipDigits_append hds fun c hc => (hbehind c hc).1]
    exact hskip

lemma skipMagnitude_append {cs rest : List Char} (hcs : MagnitudeText cs) (hrest : Delimits rest) :
    skipMagnitude (cs ++ rest) = .ok rest := by
  obtain ⟨hwhole, hfraction, hexponent⟩ := hcs
  rw [skipMagnitude_eq, List.append_assoc, List.append_assoc, skipWhole_append hwhole]
  · exact skipFraction_append hfraction hexponent hrest
  · rcases hfraction with rfl | ⟨ds, rfl, -⟩
    · exact fun c hc => (head_exponent_append hexponent hrest c hc).1
    · intro c hc
      cases hc
      rfl

/-! ### Strings -/

lemma skipEscape_append {es : List Char} (hes : EscapeText es) (rest : List Char) :
    skipEscape (es ++ rest) = .ok es.length := by
  cases hes with
  | @mark m hm =>
    have hu : m ≠ 'u' := by
      rintro rfl
      revert hm
      decide
    rw [List.singleton_append, skipEscape, if_neg hu, if_pos hm]
    rfl
  | @code ds hds =>
    rw [List.cons_append, skipEscape, if_pos rfl, readHex_append hds, List.length_cons, hds.1]
    rfl

lemma skipString_append {cs : List Char} (hcs : StringRest cs) (rest : List Char) :
    skipString (cs ++ rest) = .ok rest := by
  induction hcs with
  | close => rw [List.singleton_append, skipString, if_pos rfl]
  | plain hc _ ih =>
    rw [List.cons_append, skipString, if_neg hc.1, if_neg hc.2.1, if_neg hc.2.2, ih]
  | @escape es cs hes _ ih =>
    have hquote : ('\\' : Char) ≠ '"' := by decide
    rw [List.cons_append, List.append_assoc, skipString, if_neg hquote, if_pos rfl]
    simp only [skipEscape_append hes, List.drop_left, ih]

/-! ### Values -/

/-- What closes the list or object that is open. -/
def Enclosing.close : Enclosing → Char
  | list => ']'
  | object => '\x7d'

def Enclosing.opening : Enclosing → Char
  | list => '['
  | object => '\x7b'

/-- The text behind an item or a member. -/
def skipPiece : Enclosing → Nat → List Enclosing → List Char → Except JsonFault (List Char)
  | .list => skipValue
  | .object => skipMember

/-- The piece is skipped, and no more steps are taken for it than it has characters. -/
def Skips (e : Enclosing) (p : List Char) : Prop :=
  ∃ cost ≤ p.length, ∀ b rest n outer, IsJsonBlanks b → Delimits rest →
    skipPiece e (n + cost) outer (b ++ (p ++ rest)) = skipAfter n outer rest

variable {e : Enclosing} {outer : List Enclosing}

lemma skipAfter_close {b : List Char} (hb : IsJsonBlanks b) (n : Nat) (rest : List Char) :
    skipAfter (n + 1) (e :: outer) (b ++ e.close :: rest) = skipAfter n outer rest := by
  cases e <;> simp only [skipAfter, skipJsonBlanks_append hb, Enclosing.close] <;> rfl

lemma skipAfter_comma {b : List Char} (hb : IsJsonBlanks b) (n : Nat) (rest : List Char) :
    skipAfter (n + 1) (e :: outer) (b ++ ',' :: rest) = skipPiece e n (e :: outer) rest := by
  cases e <;> simp only [skipAfter, skipJsonBlanks_append hb] <;> rfl

lemma skipValue_empty {b b' : List Char} (hb : IsJsonBlanks b) (hb' : IsJsonBlanks b') (n : Nat)
    (rest : List Char) : skipValue (n + 1) outer (b ++ e.opening :: (b' ++ e.close :: rest)) =
      skipAfter n outer rest := by
  cases e <;>
    simp only [skipValue, skipJsonBlanks_append hb, Enclosing.opening, Enclosing.close] <;>
    simp [skipJsonBlanks_cons, isJsonBlank, skipJsonBlanks_append hb']

/-- A piece begins neither with white space nor with what closes its list or object. -/
def Opens (e : Enclosing) (p : List Char) : Prop :=
  ∃ c p', p = c :: p' ∧ isJsonBlank c = false ∧ c ≠ e.close

lemma skipValue_opening {b b' p : List Char} (hb : IsJsonBlanks b) (hb' : IsJsonBlanks b')
    (hp : Opens e p) (n : Nat) (rest : List Char) :
    skipValue (n + 1) outer (b ++ e.opening :: (b' ++ (p ++ rest))) =
      skipPiece e n (e :: outer) (p ++ rest) := by
  obtain ⟨c, p, rfl, hc, hclose⟩ := hp
  have hfirst : skipJsonBlanks (b' ++ (c :: p ++ rest)) = c :: (p ++ rest) := by
    rw [skipJsonBlanks_append hb', List.cons_append, skipJsonBlanks_cons hc]
  rw [skipValue, skipJsonBlanks_append hb]
  cases e <;> rw [Enclosing.opening, skipJsonBlanks_cons rfl] <;>
    simp only [hfirst, skipPiece, Enclosing.close] at hclose ⊢ <;> grind

lemma skipAfter_further {ps : List (List Char)} {ds : List Char} (hds : FurtherPieces ps ds)
    (hps : ∀ p ∈ ps, Skips e p) : ∃ cost ≤ ds.length + 1, ∀ rest n outer,
      skipAfter (n + cost) (e :: outer) (ds ++ e.close :: rest) = skipAfter n outer rest := by
  induction hds with
  | nil hb => exact ⟨1, by omega, fun rest n outer => skipAfter_close hb n rest⟩
  | @cons p ps b b' ds hb hb' hfurther ih =>
    obtain ⟨cost, hcost, hskip⟩ := ih fun p hp => hps p (List.mem_cons_of_mem _ hp)
    obtain ⟨cost', hcost', hskip'⟩ := hps p List.mem_cons_self
    refine ⟨cost + cost' + 1, ?_, fun rest n outer => ?_⟩
    · simp only [List.length_append, List.length_cons]
      omega
    · have hrest := hfurther.delimits e.close (by cases e <;> decide) rest
      simp only [List.append_assoc, List.cons_append]
      rw [← Nat.add_assoc, ← Nat.add_assoc, skipAfter_comma hb, hskip' b' _ _ _ hb' hrest, hskip]

/-- A list or an object is skipped if its pieces are. -/
lemma skips_pieces {ps : List (List Char)} {ds : List Char} (hds : Pieces ps ds)
    (hps : ∀ p ∈ ps, Skips e p ∧ Opens e p) : Skips .list (e.opening :: (ds ++ [e.close])) := by
  cases hds with
  | nil hb =>
    refine ⟨1, by simp, fun b rest n outer hb' _ => ?_⟩
    simp only [List.append_assoc, List.cons_append, List.nil_append]
    exact skipValue_empty hb' hb n rest
  | @cons p ps b ds hb hds =>
    obtain ⟨cost, hcost, hskip⟩ :=
      skipAfter_further hds fun p hp => (hps p (List.mem_cons_of_mem _ hp)).1
    obtain ⟨⟨cost', hcost', hskip'⟩, hopens⟩ := hps p List.mem_cons_self
    refine ⟨cost + cost' + 1, ?_, fun b' rest n outer hb' _ => ?_⟩
    · simp only [List.length_append, List.length_cons]
      omega
    · have hrest := hds.delimits e.close (by cases e <;> decide) rest
      simp only [List.append_assoc, List.cons_append, List.nil_append]
      rw [← Nat.add_assoc, ← Nat.add_assoc]
      refine (skipValue_opening hb' hb hopens _ _).trans ?_
      exact (hskip' [] _ _ _ isJsonBlanks_nil hrest).trans (hskip rest n outer)

lemma StringText.isItem {cs : List Char} (h : StringText cs) : IsItem cs := by
  obtain ⟨-⟩ := h
  exact ⟨_, _, rfl, rfl, by decide⟩

lemma MagnitudeText.exists_cons {cs : List Char} (h : MagnitudeText cs) :
    ∃ c rest, cs = c :: rest ∧ c.isDigit := by
  obtain ⟨hwhole, -, -⟩ := h
  rcases hwhole with rfl | ⟨hdigits, -⟩
  · exact ⟨_, _, rfl, rfl⟩
  · obtain ⟨c, rest, rfl⟩ := List.exists_cons_of_ne_nil hdigits.1
    exact ⟨c, _, rfl, hdigits.2 c List.mem_cons_self⟩

lemma isItem_of_isDigit {c : Char} (hc : c.isDigit) (cs : List Char) : IsItem (c :: cs) := by
  refine ⟨c, cs, rfl, not_isJsonBlank_of_isDigit hc, ?_⟩
  rintro rfl
  cases hc

/-- A value without parts takes one step. -/
lemma skips_simple {p : List Char} (hp : IsItem p) (h : ∀ rest n outer, Delimits rest →
    skipValue (n + 1) outer (p ++ rest) = skipAfter n outer rest) : Skips .list p := by
  obtain ⟨c, p, rfl, hc, -⟩ := hp
  refine ⟨1, by simp, fun b rest n outer hb hrest => ?_⟩
  rw [← h rest n outer hrest]
  change skipValue (n + 1) outer _ = _
  simp only [skipValue, skipJsonBlanks_append hb]

lemma skips_magnitude {cs : List Char} (h : MagnitudeText cs) : Skips .list cs := by
  obtain ⟨c, p, rfl, hc⟩ := h.exists_cons
  refine skips_simple (isItem_of_isDigit hc p) fun rest n outer hrest => ?_
  have hskip := skipMagnitude_append h hrest
  rw [List.cons_append] at hskip ⊢
  rw [skipValue, skipJsonBlanks_cons (not_isJsonBlank_of_isDigit hc)]
  -- no digit begins a word, a string, a list or an object
  split <;> rename_i heq <;> cases heq <;> try cases hc
  simp only [if_pos hc, hskip, bind, Except.bind]

/-- A member is skipped if its value is. -/
lemma skips_member {p : List Char} (h : MemberText StringText (Skips .list) p) :
    Skips .object p := by
  obtain ⟨⟨hcs⟩, hgap, hgap', cost, hcost, hskip⟩ := h
  refine ⟨cost + 1, ?_, fun b rest n outer hb hrest => ?_⟩
  · simp only [List.length_append, List.length_cons]
    omega
  · rw [← hskip _ rest n outer hgap' hrest, ← Nat.add_assoc]
    change skipMember (n + cost + 1) outer _ = skipValue (n + cost) outer _
    rw [skipMember, skipJsonBlanks_append hb]
    simp only [List.append_assoc, List.cons_append,
      skipJsonBlanks_cons (show isJsonBlank '"' = false from rfl), skipString_append hcs,
      readColon_append hgap, bind, Except.bind]

lemma ValueText.isItem {cs : List Char} (h : ValueText cs) : IsItem cs := by
  cases h with
  | word hw =>
    simp only [List.mem_cons, List.not_mem_nil, or_false] at hw
    rcases hw with rfl | rfl | rfl <;> exact ⟨_, _, rfl, rfl, by decide⟩
  | number hcs =>
    obtain ⟨c, rest, rfl, hc⟩ := hcs.exists_cons
    exact isItem_of_isDigit hc rest
  | negative _ => exact ⟨_, _, rfl, rfl, by decide⟩
  | string hcs => exact hcs.isItem
  | list _ _ => exact ⟨_, _, rfl, rfl, by decide⟩
  | object _ _ => exact ⟨_, _, rfl, rfl, by decide⟩

lemma opens_member {V : List Char → Prop} {p : List Char} (h : MemberText StringText V p) :
    Opens .object p := by
  obtain ⟨⟨-⟩, -, -, -⟩ := h
  exact ⟨_, _, rfl, rfl, by decide⟩

/-- Every well-formed value is skipped, by recursion on its parts. -/
theorem ValueText.skips {cs : List Char} (h : ValueText cs) : Skips .list cs :=
  match h with
  | .word hw => by
    refine skips_simple (ValueText.word hw).isItem fun rest n outer _ => ?_
    simp only [List.mem_cons, List.not_mem_nil, or_false] at hw
    rcases hw with rfl | rfl | rfl <;> rfl
  | .number hcs => skips_magnitude hcs
  | .negative hcs => by
    refine skips_simple (ValueText.negative hcs).isItem fun rest n outer hrest => ?_
    change skipMagnitude (_ ++ rest) >>= skipAfter n outer = _
    rw [skipMagnitude_append hcs hrest]
    rfl
  | .string hcs => by
    refine skips_simple hcs.isItem fun rest n outer _ => ?_
    obtain ⟨hcs⟩ := hcs
    change skipString (_ ++ rest) >>= skipAfter n outer = _
    rw [skipString_append hcs]
    rfl
  | .list hps hds => skips_pieces (e := .list) hds fun p hp => ⟨(hps p hp).skips, (hps p hp).isItem⟩
  | .object hps hds => skips_pieces (e := .object) hds fun p hp =>
    ⟨skips_member (match hps p hp with
      | .mk hk hgap hgap' hv => .mk hk hgap hgap' hv.skips), opens_member (hps p hp)⟩

/-- The value behind the colon of a key that means nothing is skipped. -/
lemma skipSlot_append {gap gap' cs rest : List Char} {bound : Nat} (hgap : IsJsonBlanks gap)
    (hgap' : IsJsonBlanks gap') (hcs : ValueText cs) (hbound : cs.length ≤ bound)
    (hrest : Delimits rest) : skipSlot bound (gap ++ ':' :: (gap' ++ (cs ++ rest))) = .ok rest := by
  obtain ⟨cost, hcost, hskip⟩ := hcs.skips
  have hread := hskip gap' rest (bound - cost) [] hgap' hrest
  rw [Nat.sub_add_cancel (hcost.trans hbound)] at hread
  simp only [skipSlot, readColon_append hgap, bind, Except.bind]
  exact hread.trans (by rw [skipAfter])

end AlbumCatalog
