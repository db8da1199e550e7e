import Threadbook.IncrementalFold
import Threadbook.ListingBounds
import Threadbook.CommitRuns
import Threadbook.LineDeduplication
import Threadbook.ParserContract
import Threadbook.TextChunks
import Threadbook.CharacterSplits
import Threadbook.PromotionPages
import Threadbook.OutfitProposal
import Threadbook.CredentialRuns
import Threadbook.DisclosureRuns
import Threadbook.JobRuns
import Threadbook.DownloadSafety
import Threadbook.ReviewAuthority
import Threadbook.MboxImport
import Threadbook.ImportRetry
import Threadbook.FailedTransfers
import Threadbook.ConnectorRuns
import Threadbook.CatalogReports
import Threadbook.Attire.TryOnPageRuns
import Threadbook.Attire.PortraitListing
import Threadbook.TryOnScheduler
import Threadbook.AlbumListing
import Threadbook.DiagnosticsLog
import Threadbook.CallbackListener
import Threadbook.MaintenanceRuns
import Threadbook.UpdateFormat
import Threadbook.OutboundRuns
import Threadbook.BlobSession
import Threadbook.ImageContainers
