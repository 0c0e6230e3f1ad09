import AlbumCatalog.Config.Error
import AlbumCatalog.Album.Store

/-!
# The environment of a run

Which files a run uses unless its arguments say otherwise, and whether it may use colors.
-/

namespace AlbumCatalog

structure Environment where
  /-- The album file. -/
  albums : Option String := none
  /-- The configuration file. -/
  config : Option String := none
  /-- The directory for the configuration of all programs. -/
  configHome : Option String := none
  /-- The directory for the data of all programs. -/
  dataHome : Option String := none
  /-- The directory of the user. -/
  home : Option String := none
  noColor : Bool := false

namespace Environment

/-- The environment that variables give. -/
def ofVariables (value? : String → Option String) : Environment where
  albums := value? "AQ_ALBUMS"
  config := value? "AQ_CONFIG"
  configHome := value? "XDG_CONFIG_HOME"
  dataHome := value? "XDG_DATA_HOME"
  home := (value? "HOME").filter (· ≠ "")
  noColor := (value? "NO_COLOR").isSome

/-- The configuration file. -/
def configPath (env : Environment) : Except ConfigError Path :=
  match env.config, env.configHome, env.home with
  | some path, _, _ => .ok ⟨path⟩
  | none, some dir, _ => .ok (((Path.mk dir).child "aq").child "config.toml")
  | none, none, some home => .ok ((((Path.mk home).child ".config").child "aq").child "config.toml")
  | none, none, none => .error .noDirectory

/-- The album file that is used when none is named. A data directory counts only if its path is
absolute. -/
def albumsPath (env : Environment) : Except StoreError Path :=
  match env.home with
  | none => .error .noDataDirectory
  | some home =>
    let own := ((Path.mk home).child ".local").child "share"
    let dir := ((env.dataHome.map Path.mk).filter Path.isAbsolute).getD own
    .ok ((dir.child "aq").child "albums.json")

end Environment

end AlbumCatalog
