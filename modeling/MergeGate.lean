import MergeGate.Action
import MergeGate.Base64
import MergeGate.Json.Writer
import MergeGate.Main
import MergeGate.Markdown.CheckboxRecord
import MergeGate.Proofs.Admission
import MergeGate.Proofs.CommitListing
import MergeGate.Proofs.CommitPages
import MergeGate.Proofs.FileFetch
import MergeGate.Proofs.FirstPlace
import MergeGate.Proofs.Outline
import MergeGate.Proofs.SearchFault
import MergeGate.Tool
import MergeGate.Proofs.FileAppend
import MergeGate.Proofs.ForeignLines
import MergeGate.Proofs.OutputRecord
import MergeGate.Proofs.StepVerdict
import MergeGate.Proofs.StepFailure
import MergeGate.Proofs.LineEndIndependence
import MergeGate.Proofs.SectionView
import MergeGate.Proofs.ShownRules
import MergeGate.Proofs.ParentTree
import MergeGate.Proofs.SectionByLines
import MergeGate.Proofs.PathNormalForm
import MergeGate.Proofs.RequestPath
import MergeGate.Proofs.RepositoryBounds
import MergeGate.Proofs.CommitReport
import MergeGate.Proofs.IssueLink
import MergeGate.Proofs.FrontMatterBlock
import MergeGate.Proofs.BlockEmbedding
import MergeGate.Proofs.CaselessLookup
import MergeGate.Proofs.PeopleCount
import MergeGate.Proofs.FileRequest
import MergeGate.Proofs.EitherCredential
import MergeGate.Proofs.BlankInput
import MergeGate.Proofs.DepthOrder
import MergeGate.Proofs.ListBlocks
