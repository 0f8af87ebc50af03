import Handover.Files.Tree
import Handover.Main
import Handover.Proofs.Inventory
import Handover.Proofs.Names
import Handover.Proofs.Observation
import Handover.Proofs.StorageIdentity
import Handover.Proofs.CrdbNodes
import Handover.Proofs.ReadBack
import Handover.Proofs.Reattachment
import Handover.Proofs.Refusal
import Handover.Proofs.Bridging
import Handover.Proofs.Paths
import Handover.Proofs.Emission
import Handover.Proofs.LegacyChart
import Handover.Proofs.FileNames
import Handover.Proofs.Prepared
import Handover.Proofs.Reruns
import Handover.Proofs.ChartValues
import Handover.Proofs.LoggingKept
import Handover.Proofs.OperatorCluster
import Handover.Proofs.BoundClaims
import Handover.Proofs.Uniformity
import Handover.Proofs.PassedOn
import Handover.Proofs.FailoverKept
import Handover.Proofs.FailoverVolume
import Handover.Proofs.Correlation
import Handover.Proofs.Inspection
import Handover.Proofs.MountPaths
import Handover.Proofs.Housing
import Handover.Proofs.StorePlaces
import Handover.Proofs.Innermost
import Handover.Proofs.Permissions
import Handover.Proofs.Secrecy
import Handover.Proofs.TrustNames
import Handover.Proofs.NodesApart
import Handover.Proofs.Numerals
import Handover.Proofs.Pairing
import Handover.Proofs.Completeness
import Handover.Proofs.ValuesKept
import Handover.Proofs.WordsWritten
import Handover.Proofs.WholeWords
import Handover.Proofs.FlagValues
import Handover.Proofs.OwnFlags
import Handover.Proofs.Listeners
import Handover.Proofs.WordForWord
import Handover.Proofs.Pieces
import Handover.Proofs.Reemission
import Handover.Proofs.ListingOrder
import Handover.Proofs.FailoverModes
import Handover.Proofs.BridgeFrame
import Handover.Proofs.BridgeRuns
import Handover.Proofs.Loading
import Handover.Proofs.Normality
import Handover.Proofs.Codecs
import Handover.Proofs.DefiniteDocuments
import Handover.Proofs.NodeDocuments
import Handover.Proofs.WholeFiles
import Handover.Proofs.PublicService
import Handover.Proofs.FlagsInOrder
import Handover.Proofs.CharactersKept
