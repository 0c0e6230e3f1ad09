import AlbumCatalog.Command.Basic
import AlbumCatalog.Command.Session
import AlbumCatalog.Config.File
import AlbumCatalog.Environment
import AlbumCatalog.Listing.Albums
import AlbumCatalog.Listing.Tokens

/-!
# Running commands

Each command reads what it needs, fails at the first step that fails, and writes its result as JSON,
as text, or not at all.
-/

namespace AlbumCatalog

variable {m : Type → Type} [Monad m]

/-- How results are written. -/
structure Presentation where
  json : Bool
  quiet : Bool
  colors : Bool

/-- Colors are used unless a flag, the environment or the configuration rules them out. -/
def Flags.presentation (flags : Flags) (env : Environment) (config : Config) : Presentation where
  json := flags.json
  quiet := flags.quiet
  colors := !flags.noColor && !env.noColor && config.color.getD true

/-- Writes a result as JSON or as text. -/
def Presentation.write (p : Presentation) (json : Json) (text : String) : Session m Unit :=
  if p.json then Session.printLine json.pretty
  else if p.quiet then pure ()
  else Session.print text

def compile (expression : String) : Session m Filter :=
  Session.perform .parse Event.ofParse (ExceptT.mk (pure (Filter.parse expression)))

/-- The album file: of the arguments, else of the configuration, else of the environment. -/
def chooseStore (env : Environment) (flags : Flags) (config : Config) :
    Except StoreError AlbumStore :=
  match flags.albums, config.albumsFile with
  | some path, _ => .ok ⟨path⟩
  | none, some path => .ok ⟨path⟩
  | none, none => AlbumStore.mk <$> env.albumsPath

/-- The query of the options. What they leave open is taken from the defaults; a sort is reversed
only if there is one. -/
def ListOptions.query (o : ListOptions) (defaults : QueryDefaults) (filter : Option Filter) :
    Query :=
  let reverse := o.reverse || defaults.reverse.getD false
  { filter
    sorting := (o.sort <|> defaults.sort).map fun field =>
      ⟨field, if reverse then .reverse else .normal⟩
    limit := (o.limit <|> defaults.limit).getD 0
    offset := o.offset
    strict := o.strict || defaults.strict.getD false }

def runCheck (p : Presentation) (expression : String) : Session m Unit := do
  let f ← compile expression
  p.write (f.json expression) (f.canonical ++ "\n")

def runTokens (p : Presentation) (expression : String) : Session m Unit :=
  let tokens := (tokenize expression).toList
  p.write (.array (tokens.map Token.json)) (tokenTable p.colors tokens)

/-- The sentence about albums that were left out. -/
def skippedNote (n : Nat) : String :=
  "Skipped " ++ toString n ++ " album(s) the filter could not be evaluated against"

variable [FileSystem m]

/-- The configuration that a session starts with. -/
def startConfig (env : Environment) : Session m Config := do
  let path ← Session.require .config env.configPath
  let config ← Session.perform .config (Event.ofConfig path) (loadConfig path)
  return config.getD {}

def loadAlbums (store : AlbumStore) : Session m (List Album) :=
  Session.perform .store (Event.ofLoad store.path) store.load

/-- Lists albums. The filter is read before any album. -/
def runList (env : Environment) (flags : Flags) (config : Config) (o : ListOptions) :
    Session m Unit := do
  let p := flags.presentation env config
  let filter ← o.filter.mapM compile
  let store ← Session.require .store (chooseStore env flags config)
  if flags.verbose then
    Session.note ("Reading albums from " ++ store.path.text)
  let albums ← loadAlbums store
  let query := o.query config.query filter
  let page ← Session.perform .evaluate Event.ofQuery (ExceptT.mk (pure (query.run albums)))
  if page.skipped > 0 && !flags.quiet && !flags.json then
    Session.note (skippedNote page.skipped)
  p.write page.json (albumTable p.colors page.albums)

/-- Copies the albums of a file into the album file. -/
def runImport (env : Environment) (flags : Flags) (config : Config) (source : Path) :
    Session m Unit := do
  let albums ← loadAlbums ⟨source⟩
  let store ← Session.require .store (chooseStore env flags config)
  Session.perform .store (fun _ => []) (store.save albums)
  Session.emit [.imported source store.path albums.length]
  let p := flags.presentation env config
  p.write
    (.object [
      ("count", .number albums.length),
      ("path", .string store.path.text),
      ("status", .string "success")])
    ("Imported " ++ toString albums.length ++ " album(s) into " ++ store.path.text ++ "\n")

/-- A line for a setting, if the configuration has it. -/
def settingLine (name : String) (value : Option String) : String :=
  value.elim "" fun v => "  " ++ name ++ ": " ++ v ++ "\n"

/-- The settings of a configuration file. -/
def Config.settingsText (c : Config) : String :=
  "Settings:\n" ++ settingLine "albums_file" (c.albumsFile.map Path.text) ++
    "\n[output]\n" ++ settingLine "color" (c.color.map toString) ++
    "\n[query]\n" ++ settingLine "sort" (c.query.sort.map SortField.text) ++
    settingLine "reverse" (c.query.reverse.map toString) ++
    settingLine "limit" (c.query.limit.map toString) ++
    settingLine "strict" (c.query.strict.map toString)

/-- Shows the configuration file, which is described as it is at the end of the session. -/
def runConfigShow (env : Environment) (p : Presentation) : Session m Unit := do
  let config ← startConfig env
  let path ← Session.require .config env.configPath
  let isThere ← FileSystem.isPresent (m := m) path
  let header :=
    if p.colors then Style.bold.paint (Style.green.paint "Configuration".toList)
    else "Configuration".toList
  p.write
    (.object [("config", config.json), ("exists", .bool isThere), ("path", .string path.text)])
    (String.ofList header ++ "\n\nFile: " ++ path.text ++ "\nExists: " ++ toString isThere ++
      "\n\n" ++
      if isThere then config.settingsText
      else "(No config file exists. Run 'aq config init' to create one.)\n")

/-- Tells where the configuration file is, whether or not it is there. -/
def runConfigPath (env : Environment) (p : Presentation) : Session m Unit := do
  let path ← Session.require .config env.configPath
  let isThere ← FileSystem.isPresent (m := m) path
  { p with quiet := false }.write
    (.object [("exists", .bool isThere), ("path", .string path.text)]) (path.text ++ "\n")

def runConfigInit (env : Environment) (p : Presentation) (force : Bool) : Session m Unit := do
  let path ← Session.require .config env.configPath
  Session.perform .config (fun _ => []) (writeStartingConfig path force)
  p.write
    (.object [("path", .string path.text), ("status", .string "success")])
    ("Created config at: " ++ path.text ++ "\n")

/-- Runs an invocation. The commands on the configuration file do not depend on what it says, and
the scripts for shells are not made here. -/
def Invocation.session (env : Environment) (i : Invocation) : Session m Unit :=
  let flags := i.flags
  let plain := flags.presentation env {}
  match i.command with
  | none =>
    if flags.quiet then pure ()
    else Session.print "aq - album query\nUse --help for usage information\n"
  | some (.check expression) => do
    runCheck (flags.presentation env (← startConfig env)) expression
  | some (.tokens expression) => do
    runTokens (flags.presentation env (← startConfig env)) expression
  | some (.list o) => do runList env flags (← startConfig env) o
  | some (.importing source) => do runImport env flags (← startConfig env) source
  | some (.config .showing) => runConfigShow env plain
  | some (.config .path) => runConfigPath env plain
  | some (.config (.writing force)) => runConfigInit env plain force
  | some (.completions _) => pure ()

end AlbumCatalog
