import AlbumCatalog.File.Error
import AlbumCatalog.File.Path

/-!
# What goes wrong with the configuration
-/

namespace AlbumCatalog

/-- The newest version of the configuration file that can be read. -/
def configVersion : Nat := 1

inductive ConfigError
  /-- No place for a configuration file is known. -/
  | noDirectory
  | read (e : FileError)
  /-- The text is no TOML, or holds a wrong value. -/
  | format
  | newerVersion (version : Nat)
  | alreadyExists (path : Path)
  | makeDirectory (e : FileError)
  | write (e : FileError)

namespace ConfigError

/-- The text of the error. For a text that cannot be parsed the detail of its fault would follow; it
is left open. -/
def message : ConfigError → String
  | noDirectory => "Could not determine config directory"
  | read e => "Failed to read config: " ++ e.message
  | format => "Failed to parse config: "
  | newerVersion version =>
    "Config version " ++ toString version ++ " is newer than supported version " ++
      toString configVersion
  | alreadyExists path =>
    "Config file already exists at " ++ path.text ++ " (use --force to overwrite)"
  | makeDirectory e => "Failed to create config directory: " ++ e.message
  | write e => "Failed to write config: " ++ e.message

end ConfigError

end AlbumCatalog
