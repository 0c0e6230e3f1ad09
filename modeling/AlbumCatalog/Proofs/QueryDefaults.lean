import AlbumCatalog.Proofs.AddedFlags
import AlbumCatalog.Proofs.SameRuns

/-!
# Defaults of a query and flags

A default of the configuration does what the flag of the same name does. A listing has the same
outcome if the configuration file is emptied of its defaults and the arguments get them as flags.
-/

namespace AlbumCatalog

open FileTree Session

/-! ### The same query -/

/-- The flag for a default, unless a value is given. -/
def defaultSetting {α : Type} (flag : α → ListFlag) (given default : Option α) : List ListFlag :=
  match given, default with
  | none, some a => [flag a]
  | _, _ => []

/-- The flag for a default that is true, unless it is given. -/
def defaultSwitch (flag : ListFlag) (given : Bool) (default : Option Bool) : List ListFlag :=
  if !given && default = some true then [flag] else []

namespace ListOptions

/-- The defaults as flags, as far as these are not given. -/
def defaultFlags (o : ListOptions) (q : QueryDefaults) : List ListFlag :=
  defaultSetting .sort o.sort q.sort ++ (defaultSetting .limit o.limit q.limit ++
    (defaultSwitch .reverse o.reverse q.reverse ++ defaultSwitch .strict o.strict q.strict))

lemma lacksAll_append {o : ListOptions} {flags flags' : List ListFlag} :
    o.LacksAll (flags ++ flags') ↔ o.LacksAll flags ∧ (flags.foldl add o).LacksAll flags' := by
  induction flags generalizing o with
  | nil => simp [LacksAll]
  | cons flag flags ih => simp [LacksAll, ih, and_assoc]

variable (o : ListOptions) (q : QueryDefaults)

lemma add_defaultSort : o.LacksAll (defaultSetting .sort o.sort q.sort) ∧
    (defaultSetting .sort o.sort q.sort).foldl add o = { o with sort := o.sort <|> q.sort } := by
  obtain ⟨filter, sort, reverse, limit, offset, strict⟩ := o
  cases sort <;> cases q.sort <;> simp [defaultSetting, LacksAll, Lacks, add]

lemma add_defaultLimit (h : ∀ n ∈ q.limit, n ≤ largestWord) :
    o.LacksAll (defaultSetting .limit o.limit q.limit) ∧
    (defaultSetting .limit o.limit q.limit).foldl add o =
      { o with limit := o.limit <|> q.limit } := by
  obtain ⟨filter, sort, reverse, limit, offset, strict⟩ := o
  cases limit <;> cases hn : q.limit <;> simp_all [defaultSetting, LacksAll, Lacks, add]

lemma add_defaultReverse : o.LacksAll (defaultSwitch .reverse o.reverse q.reverse) ∧
    (defaultSwitch .reverse o.reverse q.reverse).foldl add o =
      { o with reverse := o.reverse || q.reverse.getD false } := by
  obtain ⟨filter, sort, reverse, limit, offset, strict⟩ := o
  cases reverse <;> rcases q.reverse with _ | _ | _ <;>
    simp [defaultSwitch, LacksAll, Lacks, add]

lemma add_defaultStrict : o.LacksAll (defaultSwitch .strict o.strict q.strict) ∧
    (defaultSwitch .strict o.strict q.strict).foldl add o =
      { o with strict := o.strict || q.strict.getD false } := by
  obtain ⟨filter, sort, reverse, limit, offset, strict⟩ := o
  cases strict <;> rcases q.strict with _ | _ | _ <;>
    simp [defaultSwitch, LacksAll, Lacks, add]

lemma add_defaultFlags (h : ∀ n ∈ q.limit, n ≤ largestWord) :
    o.LacksAll (o.defaultFlags q) ∧ (o.defaultFlags q).foldl add o =
      { o with
        sort := o.sort <|> q.sort
        limit := o.limit <|> q.limit
        reverse := o.reverse || q.reverse.getD false
        strict := o.strict || q.strict.getD false } := by
  obtain ⟨hsort, hsort'⟩ := add_defaultSort o q
  obtain ⟨hlimit, hlimit'⟩ := add_defaultLimit { o with sort := o.sort <|> q.sort } q h
  obtain ⟨hreverse, hreverse'⟩ := add_defaultReverse
    { o with sort := o.sort <|> q.sort, limit := o.limit <|> q.limit } q
  obtain ⟨hstrict, hstrict'⟩ := add_defaultStrict
    { o with
      sort := o.sort <|> q.sort
      limit := o.limit <|> q.limit
      reverse := o.reverse || q.reverse.getD false } q
  constructor
  · simp only [defaultFlags, lacksAll_append, hsort', hlimit', hreverse']
    exact ⟨hsort, hlimit, hreverse, hstrict⟩
  · simp only [defaultFlags, List.foldl_append, hsort', hlimit', hreverse', hstrict']

/-- The query is the same if what the options lack of the defaults is added to them. -/
lemma query_add_defaultFlags (h : ∀ n ∈ q.limit, n ≤ largestWord) (filter : Option Filter) :
    ((o.defaultFlags q).foldl add o).query {} filter = o.query q filter := by
  rw [(o.add_defaultFlags q h).2]
  simp [query]

/-- Options with a sort field and a limit need none. -/
lemma query_of_given {o : ListOptions} (hsort : o.sort.isSome) (hlimit : o.limit.isSome)
    (q : QueryDefaults) (sort : Option SortField) (limit : Option Nat) (filter : Option Filter) :
    o.query { q with sort, limit } filter = o.query q filter := by
  obtain ⟨field, hfield⟩ := Option.isSome_iff_exists.mp hsort
  obtain ⟨n, hn⟩ := Option.isSome_iff_exists.mp hlimit
  simp [query, hfield, hn]

end ListOptions

/-! ### The configuration without its defaults -/

/-- The second text is as the first one, with an empty table for the defaults of queries. -/
def EmptiesQuery (text text' : String) : Prop :=
  ∃ ms ms' form, tomlOfText? text = some ms ∧ tomlOfText? text' = some ms' ∧
    ms'.lookup "query" = some (.table form []) ∧ ∀ key ≠ "query", ms'.lookup key = ms.lookup key

lemma Config.ofText_eq_ok {text : String} {config : Config} : Config.ofText text = .ok config ↔
    ∃ ms version, tomlOfText? text = some ms ∧ configOfMembers? ms = some (version, config) ∧
      version ≤ configVersion := by
  unfold Config.ofText
  cases hms : tomlOfText? text with
  | none => simp
  | some ms =>
    cases hconfig : configOfMembers? ms with
    | none => simp [hconfig]
    | some p =>
      obtain ⟨version, config'⟩ := p
      by_cases hversion : configVersion < version
      · simp [hconfig, hversion]
      · simp [hconfig, hversion, Nat.not_lt.mp hversion]

lemma readMember?_congr {α : Type} {ms ms' : TomlMembers} {key : String}
    (h : ms'.lookup key = ms.lookup key) (read? : Toml → Option α) :
    readMember? read? key ms' = readMember? read? key ms := by
  rw [readMember?, readMember?, h]

/-- The members of a table that make up its configuration. -/
lemma configOfMembers?_eq_some {ms : TomlMembers} {version : Nat} {config : Config} :
    configOfMembers? ms = some (version, config) ↔
      (∃ v, readMember? (readNat? greatestVersion) "version" ms = some v ∧
        v.getD configVersion = version) ∧
      (∃ p, readMember? readString? "albums_file" ms = some p ∧
        p.map Path.mk = config.albumsFile) ∧
      (∃ c, readMember? (readSection? (readMember? readBool? "color") colorOfItems?) "output" ms =
        some c ∧ c.join = config.color) ∧
      ∃ q, readMember? (readSection? QueryDefaults.ofMembers? QueryDefaults.ofItems?) "query" ms =
        some q ∧ q.getD {} = config.query := by
  obtain ⟨albumsFile, color, query⟩ := config
  simp only [configOfMembers?, Option.bind_eq_bind, Option.bind_eq_some_iff, Option.some.injEq,
    Prod.mk.injEq, Config.mk.injEq]
  constructor
  · rintro ⟨v, hv, p, hp, c, hc, q, hq, rfl, rfl, rfl, rfl⟩
    exact ⟨⟨v, hv, rfl⟩, ⟨p, hp, rfl⟩, ⟨c, hc, rfl⟩, q, hq, rfl⟩
  · rintro ⟨⟨v, hv, rfl⟩, ⟨p, hp, rfl⟩, ⟨c, hc, rfl⟩, q, hq, rfl⟩
    exact ⟨v, hv, p, hp, c, hc, q, hq, rfl, rfl, rfl, rfl⟩

lemma EmptiesQuery.ofText {text text' : String} {config : Config} (h : EmptiesQuery text text')
    (hconfig : Config.ofText text = .ok config) :
    Config.ofText text' = .ok { config with query := {} } := by
  obtain ⟨ms, version, hms, hmembers, hversion⟩ := Config.ofText_eq_ok.mp hconfig
  obtain ⟨_, ms', form, hms₁, hms', hquery, hsame⟩ := h
  rw [hms, Option.some.injEq] at hms₁
  subst hms₁
  obtain ⟨hv, hp, hc, -⟩ := configOfMembers?_eq_some.mp hmembers
  refine Config.ofText_eq_ok.mpr ⟨ms', version, hms', configOfMembers?_eq_some.mpr ?_, hversion⟩
  rw [readMember?_congr (hsame "version" (by decide)),
    readMember?_congr (hsame "albums_file" (by decide)),
    readMember?_congr (hsame "output" (by decide))]
  refine ⟨hv, hp, hc, some {}, ?_, rfl⟩
  rw [readMember?, hquery]
  rfl

lemma readNat?_le {most n : Nat} {v : Toml} (h : readNat? most v = some n) : n ≤ most := by
  unfold readNat? at h
  split at h
  case h_1 k =>
    split at h
    · cases h
      omega
    · cases h
  case h_2 => cases h

lemma QueryDefaults.limit_le_of_ofMembers? {ms : TomlMembers} {q : QueryDefaults}
    (h : ofMembers? ms = some q) : ∀ n ∈ q.limit, n ≤ greatestLimit := by
  simp only [ofMembers?, Option.bind_eq_bind, Option.bind_eq_some_iff, Option.some.injEq] at h
  obtain ⟨sort, -, reverse, -, limit, hlimit, strict, -, rfl⟩ := h
  rintro n rfl
  unfold readMember? at hlimit
  split at hlimit
  · cases hlimit
  · obtain ⟨_, hread, heq⟩ := Option.map_eq_some_iff.mp hlimit
    cases heq
    exact readNat?_le hread

lemma QueryDefaults.limit_le_of_ofItems? {items : List Toml} {q : QueryDefaults}
    (h : ofItems? items = some q) : ∀ n ∈ q.limit, n ≤ greatestLimit := by
  unfold ofItems? at h
  split at h
  · simp only [Option.bind_eq_bind, Option.bind_eq_some_iff, Option.some.injEq] at h
    obtain ⟨sort, -, reverse, -, limit, hlimit, strict, -, rfl⟩ := h
    rintro n hn
    cases hn
    exact readNat?_le hlimit
  · cases h

/-- A default limit fits into a flag. -/
lemma Config.limit_le {text : String} {config : Config} (h : Config.ofText text = .ok config) :
    ∀ n ∈ config.query.limit, n ≤ largestWord := by
  obtain ⟨ms, version, -, hmembers, -⟩ := Config.ofText_eq_ok.mp h
  obtain ⟨-, -, -, q, hq, hquery⟩ := configOfMembers?_eq_some.mp hmembers
  have hle : ∀ n ∈ config.query.limit, n ≤ greatestLimit := by
    rw [← hquery]
    unfold readMember? at hq
    split at hq
    · cases hq
      rintro n hn
      cases hn
    · obtain ⟨q', hread, rfl⟩ := Option.map_eq_some_iff.mp hq
      unfold readSection? at hread
      split at hread
      case h_5 => cases hread
      case h_1 | h_4 => exact QueryDefaults.limit_le_of_ofMembers? hread
      all_goals exact QueryDefaults.limit_le_of_ofItems? hread
  exact fun n hn => (hle n hn).trans (by decide)

/-- The defaults for queries act like flags. If the configuration is emptied of them, and those of
them that a listing does not give are given at the end of its arguments, or anywhere else where they
are read, its outcome stays the same. If it gives a sort field and a limit, those of the
configuration do not matter. -/
theorem defaults_act_like_flags {env : Environment} {arguments : List String} {i : Invocation}
    {o : ListOptions} {path : Path} {text text' : String} {config : Config} {t : FileTree}
    (hi : Invocation.ofArguments env.albums arguments = .ok i)
    (ho : i.command = some (.list o)) (hpath : env.configPath = .ok path)
    (hread : t.readText path = .ok text) (hconfig : Config.ofText text = .ok config)
    (hother : ∀ store, chooseStore env i.flags config = .ok store →
      store.place t ≠ path.placeFrom t.workingDirectory)
    (hempty : EmptiesQuery text text') :
    let outcome := (t.runProgram env arguments).1
    let flags := o.defaultFlags config.query
    let given : Invocation := ⟨i.flags, some (.list (flags.foldl ListOptions.add o))⟩
    (∃ t', t.writeText path text' = .ok t' ∧
      (∀ arguments', Invocation.ofArguments env.albums arguments' = .ok given →
        (t'.runProgram env arguments').1 = outcome) ∧
      ∃ before after, arguments = before ++ after ∧ (after = [] ∨ after = ["--"]) ∧
        let arguments' := before ++ (flags.map ListFlag.word ++ after)
        Invocation.ofArguments env.albums arguments' = .ok given ∧
        (t'.runProgram env arguments').1 = outcome) ∧
    (o.sort.isSome → o.limit.isSome → ∀ text' sort limit,
      Config.ofText text' = .ok { config with query := { config.query with sort, limit } } →
      ∃ t', t.writeText path text' = .ok t' ∧ (t'.runProgram env arguments).1 = outcome) := by
  obtain ⟨flags, command⟩ := i
  subst ho
  have hc := FileTree.configuration_of_readText hpath hread hconfig
  refine ⟨?_, ?_⟩
  · obtain ⟨t', hwrite, hc', halbums⟩ :=
      FileTree.exists_reconfigured hpath hread (hempty.ofText hconfig) hother
    obtain ⟨hlacks, hadds⟩ := o.add_defaultFlags config.query (Config.limit_le hconfig)
    have hquery := o.query_add_defaultFlags config.query (Config.limit_le hconfig)
    have hfilter : ((o.defaultFlags config.query).foldl ListOptions.add o).filter = o.filter := by
      rw [hadds]
    have hall : ∀ arguments', Invocation.ofArguments env.albums arguments' =
        .ok ⟨flags, some (.list ((o.defaultFlags config.query).foldl ListOptions.add o))⟩ →
        (t'.runProgram env arguments').1 = (t.runProgram env arguments).1 := fun arguments' hi' =>
      runProgram_list_congr hi hi' hc hc' (runList_congr rfl rfl hfilter hquery) halbums
    obtain ⟨before, after, harguments, hafter, hadded⟩ := Invocation.ofArguments_add hi rfl hlacks
    exact ⟨t', hwrite, hall, before, after, harguments, hafter, hadded, hall _ hadded⟩
  · intro hsort hgiven text' sort limit hconfig'
    obtain ⟨t', hwrite, hc', halbums⟩ :=
      FileTree.exists_reconfigured hpath hread hconfig' hother
    have hquery := ListOptions.query_of_given hsort hgiven config.query sort limit
    exact ⟨t', hwrite,
      runProgram_list_congr hi hi hc hc' (runList_congr rfl rfl rfl hquery) halbums⟩

/-- A verbose listing gives a limit of its own. The other defaults become flags before its two lone
dashes. -/
theorem defaults_of_verbose_listing :
    let env : Environment := { albums := some "a.json", config := some "c.toml" }
    let path : Path := ⟨"c.toml"⟩
    let text := "[query]\nsort = \"date\"\nreverse = true\nlimit = 1\n"
    let config : Config := { query := { sort := some .date, reverse := some true, limit := some 1 } }
    let t : FileTree := ⟨[(["c.toml"], .file text.toUTF8), (["a.json"], .file "[]".toUTF8)], []⟩
    let arguments := ["-v", "list", "--limit", "0", "--"]
    let given := ["-v", "list", "--limit", "0", "--sort=date", "--reverse", "--"]
    let o : ListOptions := { limit := some 0 }
    (∃ i, Invocation.ofArguments env.albums arguments = .ok i ∧ i.command = some (.list o) ∧
      ∀ store, chooseStore env i.flags config = .ok store →
        store.place t ≠ path.placeFrom t.workingDirectory) ∧
    env.configPath = .ok path ∧ t.readText path = .ok text ∧ Config.ofText text = .ok config ∧
    EmptiesQuery text "[query]\n" ∧
    ∃ t', t.writeText path "[query]\n" = .ok t' ∧
      (t'.runProgram env given).1 = (t.runProgram env arguments).1 := by
  intro env path text config t arguments given o
  have hi : Invocation.ofArguments env.albums arguments =
      .ok ⟨{ verbose := true, albums := some ⟨"a.json"⟩ }, some (.list o)⟩ := by
    decide +kernel
  have hgiven : Invocation.ofArguments env.albums given =
      .ok ⟨{ verbose := true, albums := some ⟨"a.json"⟩ },
        some (.list { o with sort := some .date, reverse := true })⟩ := by
    decide +kernel
  have hfirst : ∀ (text : String) (albums : ByteArray),
      FileTree.readText ⟨[(["c.toml"], .file text.toUTF8), (["a.json"], .file albums)], []⟩
        ⟨"c.toml"⟩ = .ok text := fun text _ =>
    readText_eq_ok.mpr ⟨["c.toml"], text.toUTF8, ⟨rfl, rfl⟩, rfl, rfl, fromUTF8?_toUTF8 text⟩
  have hread : t.readText path = .ok text := hfirst _ _
  have hother : ∀ store, chooseStore env { verbose := true, albums := some ⟨"a.json"⟩ } config =
      .ok store → store.place t ≠ path.placeFrom t.workingDirectory := by
    intro store hstore
    cases hstore
    decide
  have htoml : tomlOfText? text = some [("query", .table .header
      [("sort", .string "date"), ("reverse", .boolean true), ("limit", .integer 1)])] := by
    unfold text
    rfl
  have hconfig : Config.ofText text = .ok config := by
    unfold text
    rfl
  have hemptied : tomlOfText? "[query]\n" = some [("query", .table .header [])] := rfl
  have hempty : EmptiesQuery text "[query]\n" := by
    refine ⟨_, _, .header, htoml, hemptied, rfl, fun key hkey => ?_⟩
    simp [List.lookup_cons, beq_false_of_ne hkey]
  obtain ⟨⟨t', hwrite, hall, -⟩, -⟩ := defaults_act_like_flags hi rfl rfl hread hconfig hother hempty
  exact ⟨⟨_, hi, rfl, hother⟩, rfl, hread, hconfig, hempty, t', hwrite, hall given hgiven⟩

end AlbumCatalog
