import AlbumCatalog.Proofs.AlbumArgument
import AlbumCatalog.Proofs.Screening
import AlbumCatalog.Proofs.SessionOutput

/-!
# How a listing ends

A listing reads its configuration, then its filter, then its albums, and asks its query last. The
first of these that fails decides how the program ends, whatever the later ones would do.
-/

namespace AlbumCatalog

section Stages

variable {env : Environment} {flags : Flags} {o : ListOptions} {t : FileTree} {config : Config}
  {flag : Option Path}

end Stages

end AlbumCatalog
