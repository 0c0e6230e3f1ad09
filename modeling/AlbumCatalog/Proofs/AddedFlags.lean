import AlbumCatalog.Proofs.AlbumArgument
import AlbumCatalog.Proofs.Digits

/-!
# Flags added to a listing

Arguments that ask for a listing can be given flags at their end that they do not have yet. They are
then read as before, with what the flags say.
-/

namespace AlbumCatalog

/-- A flag of a listing that says how its query goes. -/
inductive ListFlag
  | sort (field : SortField)
  | limit (n : Nat)
  | reverse
  | strict

namespace ListFlag

def word : ListFlag → String
  | sort field => "--sort=" ++ field.text
  | limit n => "--limit=" ++ String.ofList (decimal n)
  | reverse => "--reverse"
  | strict => "--strict"

/-- What is gathered once the flag is met. -/
def addTo (g : Gathered) : ListFlag → Except ArgumentStop Gathered
  | sort field => g.give .sort field.text
  | limit n => g.give .limit (String.ofList (decimal n))
  | reverse => g.turnOn .reverse
  | strict => g.turnOn .strict

end ListFlag

namespace ListOptions

def add (o : ListOptions) : ListFlag → ListOptions
  | .sort field => { o with sort := some field }
  | .limit n => { o with limit := some n }
  | .reverse => { o with reverse := true }
  | .strict => { o with strict := true }

/-- The flag can be given in addition. -/
def Lacks (o : ListOptions) : ListFlag → Prop
  | .sort _ => o.sort = none
  | .limit n => o.limit = none ∧ n ≤ largestWord
  | .reverse => o.reverse = false
  | .strict => o.strict = false

/-- The flags can be given in addition, one after another. -/
def LacksAll : ListOptions → List ListFlag → Prop
  | _, [] => True
  | o, flag :: flags => o.Lacks flag ∧ (o.add flag).LacksAll flags

end ListOptions

/-! ### Single flags -/

/-- The flags that hold for every command are the same. -/
structure Gathered.SameFlags (g g' : Gathered) : Prop where
  albums : g'.albums = g.albums
  switches : ∀ s, s ≠ .reverse → s ≠ .strict → (s ∈ g'.switches ↔ s ∈ g.switches)

lemma Gathered.SameFlags.refl (g : Gathered) : g.SameFlags g :=
  ⟨rfl, fun _ _ _ => Iff.rfl⟩

lemma Gathered.SameFlags.trans {g g' g'' : Gathered} (h : g.SameFlags g') (h' : g'.SameFlags g'') :
    g.SameFlags g'' :=
  ⟨h'.albums.trans h.albums,
    fun s hr hs => (h'.switches s hr hs).trans (h.switches s hr hs)⟩

lemma readWordNumber_decimal {n : Nat} (hn : n ≤ largestWord) :
    readWordNumber (String.ofList (decimal n)) = .ok n := by
  have hdigits : (decimal n).all Char.isDigit := by
    rw [List.all_eq_true]
    exact isDigit_of_mem_decimal n
  have hempty : (decimal n).isEmpty = false := by
    simp [decimal_ne_nil]
  simp only [readWordNumber, String.toList_ofList]
  split
  · rename_i cs hcs
    have hplus := isDigit_of_mem_decimal n '+' (by rw [hcs]; exact List.mem_cons_self)
    cases hplus
  · simp [hdigits, hempty, decimalValue_decimal, hn]

/-- A flag that is lacking is gathered, and nothing else changes. -/
lemma ListFlag.addTo_of_lacks {g : Gathered} {flag : ListFlag} (h : (listOptions g).Lacks flag) :
    ∃ g', flag.addTo g = .ok g' ∧ listOptions g' = (listOptions g).add flag ∧ g.SameFlags g' := by
  cases flag with
  | sort field =>
    have hnone : g.sort = none := h
    have hfield : SortField.ofText? field.text = some field := by
      cases field <;> rfl
    refine ⟨{ g with sort := some field }, ?_, rfl, ⟨rfl, fun _ _ _ => Iff.rfl⟩⟩
    rw [addTo, Gathered.give, hnone, hfield]
    rfl
  | limit n =>
    obtain ⟨hnone, hn⟩ : g.limit = none ∧ n ≤ largestWord := h
    refine ⟨{ g with limit := some n }, ?_, rfl, ⟨rfl, fun _ _ _ => Iff.rfl⟩⟩
    rw [addTo, Gathered.give, hnone, readWordNumber_decimal hn]
    rfl
  | reverse =>
    have hnot : Switch.reverse ∉ g.switches := of_decide_eq_false h
    refine ⟨{ g with switches := .reverse :: g.switches }, if_neg hnot, ?_, ⟨rfl, ?_⟩⟩
    · simp [listOptions, ListOptions.add]
    · intro s hr _
      simp [hr]
  | strict =>
    have hnot : Switch.strict ∉ g.switches := of_decide_eq_false h
    refine ⟨{ g with switches := .strict :: g.switches }, if_neg hnot, ?_, ⟨rfl, ?_⟩⟩
    · simp [listOptions, ListOptions.add]
    · intro s _ hs
      simp [hs]

namespace LevelState

variable {albums : Option String} {st st' : LevelState}

/-- The word of a flag is taken at once, with its value. -/
lemma take_word (h : st.trailing = false) (flag : ListFlag) : st.take .list flag.word = do
    let st ← st.settle
    return { st with gathered := ← flag.addTo st.gathered } := by
  unfold take
  rw [if_neg (by simp [h])]
  cases flag with
  | sort field => cases field <;> rfl
  | limit n =>
    have hword : (ListFlag.limit n).word.toList =
        '-' :: '-' :: 'l' :: 'i' :: 'm' :: 'i' :: 't' :: '=' :: decimal n := by
      simp [ListFlag.word]
    rw [hword]
    rfl
  | reverse => rfl
  | strict => rfl

lemma settle_trailing (h : st.settle = .ok st') :
    st'.trailing = st.trailing ∧ st'.pending = .nothing := by
  unfold settle at h
  split at h
  case h_1 hnothing =>
    cases h
    exact ⟨rfl, hnothing⟩
  case h_2 => cases h
  all_goals
    obtain ⟨g, -, h⟩ := except_bind_eq_ok.mp h
    cases h
    exact ⟨rfl, rfl⟩

lemma settle_of_nothing (h : st.pending = .nothing) : st.settle = .ok st := by
  unfold settle
  rw [h]

lemma takeMark_trailing {mark : Mark} {joined : Option String}
    (h : st.takeMark mark joined = .ok st') : st'.trailing = st.trailing := by
  unfold takeMark at h
  split at h
  case h_1 | h_4 =>
    obtain ⟨st₁, hsettle, h⟩ := except_bind_eq_ok.mp h
    obtain ⟨g, -, h⟩ := except_bind_eq_ok.mp h
    cases h
    exact (settle_trailing hsettle).1
  case h_2 =>
    obtain ⟨st₁, hsettle, h⟩ := except_bind_eq_ok.mp h
    cases h
    exact (settle_trailing hsettle).1
  case h_3 => cases h
  all_goals
    obtain ⟨_, -, h⟩ := except_bind_eq_ok.mp h
    cases h

lemma takeName_trailing {l : Level} {name : String} {joined : Option String}
    (h : st.takeName l name joined = .ok st') : st'.trailing = st.trailing := by
  unfold takeName at h
  split at h
  · cases h
  · exact takeMark_trailing h

lemma takeLetters_trailing {l : Level} {cs : List Char} (h : takeLetters l st cs = .ok st') :
    st'.trailing = st.trailing := by
  induction cs generalizing st with
  | nil =>
    cases h
    rfl
  | cons c cs ih =>
    unfold takeLetters at h
    split at h
    case h_1 => cases h
    case h_2 =>
      split at h
      all_goals exact takeMark_trailing h
    case h_3 =>
      obtain ⟨st₁, hmark, h⟩ := except_bind_eq_ok.mp h
      exact (ih h).trans (takeMark_trailing hmark)

/-- Only two lone dashes turn a listing to operands, and no word may follow them. -/
lemma trailing_of_take {word : String} (h : st.take .list word = .ok st') :
    st.trailing = false ∧ (word = "--" ∧ st' = { st with trailing := true } ∨
      st'.trailing = false) := by
  have hword : ∀ st : LevelState, ∀ word, st.takeWord .list word ≠ .ok st' := by
    intro st word h
    cases h
  unfold take at h
  split at h
  case isTrue => exact absurd h (hword _ _)
  case isFalse hfalse =>
    rw [Bool.not_eq_true] at hfalse
    refine ⟨hfalse, ?_⟩
    split at h
    case h_1 hdashes =>
      cases h
      exact .inl ⟨String.toList_inj.mp hdashes, rfl⟩
    case h_2 => exact .inr ((takeName_trailing h).trans hfalse)
    case h_3 => exact .inr ((takeLetters_trailing h).trans hfalse)
    case h_4 =>
      split at h
      · cases h
        exact .inr hfalse
      · exact absurd h (hword _ _)

lemma finish_eq_ok {l : Level} {g : Gathered} : st.finish l albums = .ok g ↔
    ∃ st', st.settle = .ok st' ∧ g.checkAlbums albums = .ok () ∧ g.validate l = .ok () ∧
      st'.gathered = g := by
  constructor
  · intro h
    obtain ⟨st', hsettle, h⟩ := except_bind_eq_ok.mp h
    obtain ⟨⟨⟩, halbums, h⟩ := except_bind_eq_ok.mp h
    obtain ⟨⟨⟩, hvalid, h⟩ := except_bind_eq_ok.mp h
    cases h
    exact ⟨st', hsettle, halbums, hvalid, rfl⟩
  · rintro ⟨st', hsettle, halbums, hvalid, rfl⟩
    exact except_bind_eq_ok.mpr ⟨st', hsettle, except_bind_eq_ok.mpr ⟨(), halbums,
      except_bind_eq_ok.mpr ⟨(), hvalid, rfl⟩⟩⟩

lemma finish_trailing (l : Level) (trailing : Bool) :
    { st with trailing }.finish l albums = st.finish l albums := by
  obtain ⟨gathered, pending, -, met⟩ := st
  cases pending with
  | nothing => rfl
  | setting s value =>
    cases value with
    | none => rfl
    | some text =>
      simp only [finish, settle]
      cases gathered.give s text <;> rfl
  | operand o text =>
    simp only [finish, settle]
    cases gathered.giveOperand o text <;> rfl

lemma checkAlbums_congr {g g' : Gathered} (h : g.SameFlags g') :
    g'.checkAlbums albums = g.checkAlbums albums := by
  unfold Gathered.checkAlbums
  rw [h.albums]

lemma validate_congr {g g' : Gathered} (h : g.SameFlags g') :
    g'.validate .list = g.validate .list := by
  have hverbose := h.switches .verbose (by decide) (by decide)
  have hquiet := h.switches .quiet (by decide) (by decide)
  simp only [Gathered.validate, hverbose, hquiet, Level.operand?, Option.all_none]

/-- The words of flags are taken one after another, on top of what was said before them. -/
lemma foldlM_take_words {g : Gathered} {flags : List ListFlag} (h : st.trailing = false)
    (hfinish : st.finish .list albums = .ok g) (hflags : (listOptions g).LacksAll flags) :
    ∃ st' g', (flags.map ListFlag.word).foldlM (take · .list ·) st = .ok st' ∧
      st'.trailing = false ∧ st'.finish .list albums = .ok g' ∧
      listOptions g' = flags.foldl ListOptions.add (listOptions g) ∧ g.SameFlags g' := by
  induction flags generalizing st g with
  | nil => exact ⟨st, g, rfl, h, hfinish, rfl, .refl g⟩
  | cons flag flags ih =>
    obtain ⟨hlacks, hflags⟩ := hflags
    obtain ⟨settled, hsettle, halbums, hvalid, rfl⟩ := finish_eq_ok.mp hfinish
    obtain ⟨hsame, hnothing⟩ := settle_trailing hsettle
    obtain ⟨g₁, hadd, hoptions, hflag⟩ := ListFlag.addTo_of_lacks hlacks
    let st₁ : LevelState := { settled with gathered := g₁ }
    have htake : st.take .list flag.word = .ok st₁ := by
      rw [take_word h, hsettle]
      change (flag.addTo settled.gathered >>= fun g => .ok { settled with gathered := g }) = _
      rw [hadd]
      rfl
    have hfinish₁ : st₁.finish .list albums = .ok g₁ := by
      refine finish_eq_ok.mpr ⟨st₁, settle_of_nothing hnothing, ?_, ?_, rfl⟩
      · rw [checkAlbums_congr hflag, halbums]
      · rw [validate_congr hflag, hvalid]
    have htrailing₁ : st₁.trailing = false := hsame.trans h
    obtain ⟨st', g', htakes, htrailing, hfinish', hoptions', hflags'⟩ :=
      ih htrailing₁ hfinish₁ (hoptions ▸ hflags)
    refine ⟨st', g', ?_, htrailing, hfinish', ?_, hflag.trans hflags'⟩
    · rw [List.map_cons, List.foldlM_cons, htake]
      exact htakes
    · rw [hoptions', hoptions, List.foldl_cons]

/-- The place for more flags is at the end, before two lone dashes that stand there. -/
lemma exists_place_for_flags {words : List String}
    (h : words.foldlM (take · .list ·) {} = .ok st) : ∃ before after st₀,
      words = before ++ after ∧ before.foldlM (take · .list ·) {} = .ok st₀ ∧
      st₀.trailing = false ∧
      (after = [] ∧ st = st₀ ∨ after = ["--"] ∧ st = { st₀ with trailing := true }) := by
  rcases List.eq_nil_or_concat words with rfl | ⟨before, word, rfl⟩
  · cases h
    exact ⟨[], [], {}, rfl, rfl, rfl, .inl ⟨rfl, rfl⟩⟩
  · have hwhole := h
    rw [List.concat_eq_append, List.foldlM_append] at h
    obtain ⟨st₀, hbefore, h⟩ := except_bind_eq_ok.mp h
    obtain ⟨st₁, htake, h⟩ := except_bind_eq_ok.mp h
    cases h
    obtain ⟨hfalse, ⟨rfl, rfl⟩ | hstill⟩ := trailing_of_take htake
    · exact ⟨before, ["--"], st₀, List.concat_eq_append, hbefore, hfalse, .inr ⟨rfl, rfl⟩⟩
    · exact ⟨before.concat word, [], st, (List.append_nil _).symm, hwhole, hstill, .inl ⟨rfl, rfl⟩⟩

end LevelState

/-! ### The levels of a listing -/

section Levels

variable {albums : Option String}

lemma readLevels_list (words : List String) (st : LevelState) :
    readLevels albums words .list st = (do
      let st ← words.foldlM (LevelState.take · .list ·) st
      return [(.list, ← st.finish .list albums)]) := by
  induction words generalizing st with
  | nil => rfl
  | cons word words ih =>
    have hnone : (if st.trailing || st.awaiting?.isSome then none
        else Level.list.subcommand? word) = none := by
      split <;> rfl
    unfold readLevels
    rw [hnone]
    simp only [ih, List.foldlM_cons, bind_assoc]

lemma readLevels_list_eq_ok {words : List String} {st : LevelState} {below : List (Level × Gathered)} :
    readLevels albums words .list st = .ok below ↔
      ∃ st' g, words.foldlM (LevelState.take · .list ·) st = .ok st' ∧
        st'.finish .list albums = .ok g ∧ below = [(.list, g)] := by
  rw [readLevels_list, except_bind_eq_ok]
  constructor
  · rintro ⟨st', htakes, h⟩
    obtain ⟨g, hfinish, h⟩ := except_bind_eq_ok.mp h
    cases h
    exact ⟨st', g, htakes, hfinish, rfl⟩
  · rintro ⟨st', g, htakes, hfinish, rfl⟩
    exact ⟨st', htakes, except_bind_eq_ok.mpr ⟨g, hfinish, rfl⟩⟩

/-- Where a listing can be read, flags that it lacks can be given at the end. -/
lemma readLevels_list_add {words : List String} {g : Gathered} {flags : List ListFlag}
    (h : readLevels albums words .list {} = .ok [(.list, g)])
    (hflags : (listOptions g).LacksAll flags) : ∃ before after g',
      words = before ++ after ∧ (after = [] ∨ after = ["--"]) ∧
      readLevels albums (before ++ (flags.map ListFlag.word ++ after)) .list {} =
        .ok [(.list, g')] ∧
      listOptions g' = flags.foldl ListOptions.add (listOptions g) ∧ g.SameFlags g' := by
  obtain ⟨st, _, htakes, hfinish, hg⟩ := readLevels_list_eq_ok.mp h
  cases hg
  obtain ⟨before, after, st₀, hwords, hbefore, hfalse, hafter⟩ :=
    LevelState.exists_place_for_flags htakes
  have hfinish₀ : st₀.finish .list albums = .ok g := by
    rcases hafter with ⟨-, rfl⟩ | ⟨-, rfl⟩
    · exact hfinish
    · rwa [LevelState.finish_trailing] at hfinish
  obtain ⟨st', g', hadded, hfalse', hfinish', hoptions, hsame⟩ :=
    LevelState.foldlM_take_words hfalse hfinish₀ hflags
  refine ⟨before, after, g', hwords, hafter.imp And.left And.left, ?_, hoptions, hsame⟩
  refine readLevels_list_eq_ok.mpr ?_
  rw [List.foldlM_append, hbefore]
  change ∃ st'' g'', List.foldlM _ st₀ _ = _ ∧ _
  rw [List.foldlM_append, hadded]
  rcases hafter with ⟨rfl, -⟩ | ⟨rfl, -⟩
  · exact ⟨st', g', rfl, hfinish', rfl⟩
  · refine ⟨{ st' with trailing := true }, g', ?_, ?_, rfl⟩
    · change (LevelState.take st' .list "--" >>= fun st => .ok st) = _
      unfold LevelState.take
      rw [if_neg (by simp [hfalse'])]
      rfl
    · rw [LevelState.finish_trailing, hfinish']

lemma mem_commands_of_subcommand? {l sub : Level} {word : String}
    (h : l.subcommand? word = some (.level sub)) : (word, sub) ∈ l.commands := by
  unfold Level.subcommand? at h
  split at h
  · cases h
  · obtain ⟨_, hlookup, heq⟩ := Option.map_eq_some_iff.mp h
    cases heq
    obtain ⟨before, after, hcommands, -⟩ := List.lookup_eq_some_iff.mp hlookup
    rw [hcommands]
    exact List.mem_append_right _ List.mem_cons_self

/-- No command leads back to the program, and only one of the program leads to a listing. -/
lemma ne_of_mem_commands {l sub : Level} {word : String} (h : (word, sub) ∈ l.commands) :
    sub ≠ .program ∧ (l ≠ .program → sub ≠ .list) := by
  have hall : ∀ l ∈ [Level.program, .config], ∀ p ∈ l.commands,
      p.2 ≠ .program ∧ (l ≠ .program → p.2 ≠ .list) := by
    decide
  cases l with
  | program => exact hall .program (by decide) _ h
  | config => exact hall .config (by decide) _ h
  | _ => cases h

/-- Below a level, no listing is met that was not met there. -/
lemma not_list_of_readLevels {words : List String} {l : Level} {st : LevelState}
    {levels : List (Level × Gathered)} (hl : l ≠ .program) (hlist : l ≠ .list)
    (h : readLevels albums words l st = .ok levels) : ∀ p ∈ levels, p.1 ≠ .list := by
  induction words generalizing l st levels with
  | nil =>
    obtain ⟨g, -, h⟩ := except_bind_eq_ok.mp h
    cases h
    simpa using hlist
  | cons word words ih =>
    unfold readLevels at h
    cases hcommand : (if st.trailing || st.awaiting?.isSome then none else l.subcommand? word) with
    | none =>
      rw [hcommand] at h
      obtain ⟨st', -, h⟩ := except_bind_eq_ok.mp h
      exact ih hl hlist h
    | some sub =>
      rw [hcommand] at h
      cases sub with
      | help => cases h
      | level sub =>
        obtain ⟨below, hbelow, h⟩ := except_bind_eq_ok.mp h
        obtain ⟨g, -, h⟩ := except_bind_eq_ok.mp h
        cases h
        have hsub : l.subcommand? word = some (.level sub) := by
          split at hcommand
          · cases hcommand
          · exact hcommand
        obtain ⟨hprogram, hlist'⟩ := ne_of_mem_commands (mem_commands_of_subcommand? hsub)
        intro p hp
        rcases List.mem_cons.mp hp with rfl | hp
        · exact hlist
        · exact ih hprogram (hlist' hl) hbelow p hp

/-- Arguments for a listing go over to the level of the listing at some place. What stands behind
the place can be replaced by anything else that this level reads. -/
lemma readLevels_program {words : List String} {st : LevelState}
    {levels : List (Level × Gathered)} {g : Gathered}
    (h : readLevels albums words .program st = .ok levels)
    (hlast : levels.getLast? = some (.list, g)) : ∃ front rest top,
      words = front ++ rest ∧ levels = [top, (.list, g)] ∧
      readLevels albums rest .list {} = .ok [(.list, g)] ∧
      ∀ rest' below, readLevels albums rest' .list {} = .ok below →
        readLevels albums (front ++ rest') .program st = .ok (top :: below) := by
  induction words generalizing st levels with
  | nil =>
    obtain ⟨g', -, h⟩ := except_bind_eq_ok.mp h
    cases h
    cases hlast
  | cons word words ih =>
    unfold readLevels at h
    cases hcommand : (if st.trailing || st.awaiting?.isSome then none
        else Level.program.subcommand? word) with
    | none =>
      rw [hcommand] at h
      obtain ⟨st', htake, h⟩ := except_bind_eq_ok.mp h
      obtain ⟨front, rest, top, rfl, hlevels, hrest, hreplace⟩ := ih h hlast
      refine ⟨word :: front, rest, top, rfl, hlevels, hrest, fun rest' below hbelow => ?_⟩
      rw [List.cons_append]
      unfold readLevels
      rw [hcommand]
      exact except_bind_eq_ok.mpr ⟨st', htake, hreplace rest' below hbelow⟩
    | some sub =>
      rw [hcommand] at h
      cases sub with
      | help => cases h
      | level sub =>
        obtain ⟨below, hbelow, h⟩ := except_bind_eq_ok.mp h
        obtain ⟨top, hfinish, h⟩ := except_bind_eq_ok.mp h
        cases h
        have hsub : Level.program.subcommand? word = some (.level sub) := by
          split at hcommand
          · cases hcommand
          · exact hcommand
        obtain ⟨hprogram, -⟩ := ne_of_mem_commands (mem_commands_of_subcommand? hsub)
        have hne : below ≠ [] := by
          rintro rfl
          cases hlast
        rw [List.getLast?_cons_of_ne_nil hne] at hlast
        have hmem := List.mem_of_getLast? hlast
        obtain rfl : sub = .list := by
          by_contra hsub
          exact not_list_of_readLevels hprogram hsub hbelow _ hmem rfl
        obtain ⟨_, g', htakes, hfinish', rfl⟩ := readLevels_list_eq_ok.mp hbelow
        cases hlast
        refine ⟨[word], words, (.program, top), rfl, rfl, hbelow, fun rest' below hbelow => ?_⟩
        rw [List.singleton_append]
        unfold readLevels
        rw [hcommand]
        exact except_bind_eq_ok.mpr ⟨below, hbelow, except_bind_eq_ok.mpr ⟨top, hfinish, rfl⟩⟩

end Levels

lemma commandOfLevel_eq_list {l : Level} {g : Gathered} {o : ListOptions}
    (h : commandOfLevel l g = some (.list o)) : l = .list ∧ o = listOptions g := by
  cases l with
  | list =>
    cases h
    exact ⟨rfl, rfl⟩
  | check | tokens | importing | completions =>
    obtain ⟨_, -, h⟩ := Option.map_eq_some_iff.mp h
    cases h
  | _ => cases h

lemma flagsOfLevels_congr {albums : Option String} {top : Level × Gathered} {g g' : Gathered}
    (h : g.SameFlags g') :
    flagsOfLevels albums [top, (.list, g')] = flagsOfLevels albums [top, (.list, g)] := by
  have hverbose := h.switches .verbose (by decide) (by decide)
  have hquiet := h.switches .quiet (by decide) (by decide)
  have hjson := h.switches .json (by decide) (by decide)
  have hcolor := h.switches .noColor (by decide) (by decide)
  simp only [flagsOfLevels, List.any_cons, List.any_nil, List.filterMap_cons, List.filterMap_nil,
    h.albums, hverbose, hquiet, hjson, hcolor]

/-- Flags that a listing lacks can be given at the end of its arguments, before two lone dashes that
stand there. The invocation is then the same with these flags. -/
lemma Invocation.ofArguments_add {albums : Option String} {arguments : List String}
    {i : Invocation} {o : ListOptions} {flags : List ListFlag}
    (hi : ofArguments albums arguments = .ok i) (ho : i.command = some (.list o))
    (hflags : o.LacksAll flags) : ∃ before after,
      arguments = before ++ after ∧ (after = [] ∨ after = ["--"]) ∧
      ofArguments albums (before ++ (flags.map ListFlag.word ++ after)) =
        .ok ⟨i.flags, some (.list (flags.foldl ListOptions.add o))⟩ := by
  obtain ⟨levels, hlevels, h⟩ := except_bind_eq_ok.mp hi
  cases h
  obtain ⟨⟨l, g⟩, hlast, hcommand⟩ := Option.bind_eq_some_iff.mp ho
  obtain ⟨rfl, rfl⟩ := commandOfLevel_eq_list hcommand
  obtain ⟨front, rest, top, rfl, rfl, hrest, hreplace⟩ := readLevels_program hlevels hlast
  obtain ⟨before, after, g', rfl, hafter, hadded, hoptions, hsame⟩ :=
    readLevels_list_add hrest hflags
  refine ⟨front ++ before, after, (List.append_assoc _ _ _).symm, hafter, ?_⟩
  rw [List.append_assoc]
  refine except_bind_eq_ok.mpr ⟨_, hreplace _ _ hadded, ?_⟩
  rw [← hoptions]
  change Except.ok (Invocation.mk (flagsOfLevels albums [top, (.list, g')]) _) = _
  rw [flagsOfLevels_congr hsame]
  rfl

end AlbumCatalog
