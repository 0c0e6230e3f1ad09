import AlbumCatalog.Album.Json
import AlbumCatalog.File.System

/-!
# Album files

A store keeps a list of albums in one file, as a JSON array. A list is saved to a draft beside the
file, which is then moved into its place, so the file never holds half a list.
-/

namespace AlbumCatalog

inductive StoreError
  | noDataDirectory
  | read (path : Path) (e : FileError)
  | write (path : Path) (e : FileError)
  | makeDirectory (path : Path) (e : FileError)
  | format (fault : JsonFault)

/-- The text of the error. For JSON text that cannot be read as albums, the detail of its fault is
replaced by the name of its kind. -/
def StoreError.message : StoreError → String
  | noDataDirectory => "failed to determine data directory: no valid home directory found"
  | read path e => "failed to read album file '" ++ path.text ++ "': " ++ e.message
  | write path e => "failed to write album file '" ++ path.text ++ "': " ++ e.message
  | makeDirectory path e => "failed to create data directory '" ++ path.text ++ "': " ++ e.message
  | format fault => "JSON error: " ++ fault.name

structure AlbumStore where
  path : Path

namespace AlbumStore

variable {m : Type → Type} [Monad m] [FileSystem m]

def isPresent (s : AlbumStore) : m Bool :=
  FileSystem.isPresent s.path

/-- Where a list is written before it takes the place of the file. -/
def draftPath (s : AlbumStore) : Path :=
  s.path.withExtension "tmp"

def load (s : AlbumStore) : ExceptT StoreError m (List Album) := do
  let text ← (FileSystem.readText s.path).adapt (.read s.path)
  ExceptT.mk (pure ((albumsOfText text).mapError .format))

/-- Replaces the file, and makes the directories above it that are missing. -/
def save (s : AlbumStore) (albums : List Album) : ExceptT StoreError m Unit := do
  if let some parent := s.path.parent? then
    (FileSystem.makeDirectories parent).adapt (.makeDirectory parent)
  (FileSystem.writeText s.draftPath (albumsText albums)).adapt (.write s.draftPath)
  (FileSystem.moveFile s.draftPath s.path).adapt (.write s.path)

end AlbumStore

end AlbumCatalog
