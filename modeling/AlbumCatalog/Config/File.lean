import AlbumCatalog.Config.Basic
import AlbumCatalog.File.System

/-!
# The configuration file
-/

namespace AlbumCatalog

variable {m : Type → Type} [Monad m] [FileSystem m]

/-- The configuration in a file, or none if the file is missing. -/
def loadConfig (path : Path) : ExceptT ConfigError m (Option Config) := do
  if ← FileSystem.isPresent (m := m) path then
    let text ← (FileSystem.readText path).adapt ConfigError.read
    let config ← ExceptT.mk (pure (Config.ofText text))
    return some config
  else
    return none

/-- Writes the file that a user starts from. A file that is there is only replaced by force. -/
def writeStartingConfig (path : Path) (force : Bool) : ExceptT ConfigError m Unit := do
  if (← FileSystem.isPresent (m := m) path) && !force then
    throw (.alreadyExists path)
  if let some parent := path.parent? then
    (FileSystem.makeDirectories parent).adapt ConfigError.makeDirectory
  (FileSystem.writeText path startingConfigText).adapt ConfigError.write

end AlbumCatalog
