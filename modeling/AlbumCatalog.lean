import AlbumCatalog.Main
import AlbumCatalog.Proofs.Importing
import AlbumCatalog.Proofs.Joining
import AlbumCatalog.Proofs.Paging
import AlbumCatalog.Proofs.Sorting
import AlbumCatalog.Proofs.RootedTree
import AlbumCatalog.Proofs.StoreHistory
import AlbumCatalog.Proofs.DayFilter
import AlbumCatalog.Proofs.Canonical
import AlbumCatalog.Proofs.Listing
import AlbumCatalog.Proofs.JsonOutput
import AlbumCatalog.Proofs.HandWrittenAlbums
import AlbumCatalog.Proofs.ByteScanning
import AlbumCatalog.Proofs.FailureReports
import AlbumCatalog.Proofs.QueryDefaults
import AlbumCatalog.Proofs.FilterSymbols
import AlbumCatalog.Proofs.Duality
import AlbumCatalog.Proofs.Membership
import AlbumCatalog.Proofs.ComparedFields
import AlbumCatalog.Proofs.SortedStretches
import AlbumCatalog.Proofs.FieldSuggestion
import AlbumCatalog.Proofs.AlbumTable
import AlbumCatalog.Proofs.TokenTable
import AlbumCatalog.Proofs.ParentDirectory
import AlbumCatalog.Proofs.ConfigurationFile
