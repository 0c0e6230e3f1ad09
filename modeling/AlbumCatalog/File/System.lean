import AlbumCatalog.File.Error
import AlbumCatalog.File.Path

/-!
# File systems

What the program asks of a file system. Each operation is one step that succeeds or fails as a
whole: a write that stops half way, with part of the text in the file, is outside this description.
-/

namespace AlbumCatalog

class FileSystem (m : Type → Type) where
  /-- Whether a file or directory is found at the path. -/
  isPresent : Path → m Bool
  isDirectory : Path → m Bool
  readText : Path → ExceptT FileError m String
  /-- Makes a file of that content, or gives the file at the path that content. -/
  writeText : Path → String → ExceptT FileError m Unit
  /-- Moves a file to a path, over the file that is there. -/
  moveFile : Path → Path → ExceptT FileError m Unit
  /-- Makes a directory in a directory that is there. -/
  makeDirectory : Path → ExceptT FileError m Unit

namespace FileSystem

variable {m : Type → Type} [Monad m] [FileSystem m]

/-- Passes over an error if there is a directory at the path after all. -/
def unlessDirectory (p : Path) (e : FileError) : ExceptT FileError m Unit := do
  if ← isDirectory (m := m) p then pure () else throw e

/-- Makes a directory, unless it is there. -/
def ensureDirectory (p : Path) : ExceptT FileError m Unit :=
  if p.text.isEmpty then pure () else tryCatch (makeDirectory p) (unlessDirectory p)

/-- Makes a directory, and those of its ancestors that are missing, the nearest being first in the
list. -/
def makeDirectoriesFrom : List Path → Path → ExceptT FileError m Unit
  | [], p => ensureDirectory p
  | parent :: further, p =>
    if p.text.isEmpty then pure ()
    else
      tryCatch (makeDirectory p) fun
        | .notFound => do
          makeDirectoriesFrom further parent
          ensureDirectory p
        | e => unlessDirectory p e

/-- Makes a directory and those of its ancestors that are missing. -/
def makeDirectories (p : Path) : ExceptT FileError m Unit :=
  makeDirectoriesFrom p.ancestors p

end FileSystem

end AlbumCatalog
