import RepoAtlas.Doc.Ratio
import RepoAtlas.Main
import RepoAtlas.Proofs.Atlas.Contracts
import RepoAtlas.Proofs.Atlas.StoredViews
import RepoAtlas.Proofs.Calls.BoundedSearch
import RepoAtlas.Proofs.Calls.CallOrder
import RepoAtlas.Proofs.Calls.Ranking
import RepoAtlas.Proofs.Calls.SurfaceLimit
import RepoAtlas.Proofs.CommandLine.CallChart
import RepoAtlas.Proofs.Diagram.Flowcharts
import RepoAtlas.Proofs.Diff.ChangeDiagram
import RepoAtlas.Proofs.Diff.Reversal
import RepoAtlas.Proofs.Diff.TypedPayloads
import RepoAtlas.Proofs.Extract.Capture
import RepoAtlas.Proofs.Extract.SourceFiles
import RepoAtlas.Proofs.Extract.Storing
import RepoAtlas.Proofs.Record.SnapshotForm
import RepoAtlas.Proofs.Report.Columns
import RepoAtlas.Proofs.Settings.LatestWrites
import RepoAtlas.Proofs.Source.Attribution
import RepoAtlas.Proofs.Source.UnionSpelling
import RepoAtlas.Proofs.Store.Alike
import RepoAtlas.Proofs.Store.BrokenManifests
import RepoAtlas.Proofs.Store.FailedSave
import RepoAtlas.Proofs.Store.Refinement
import RepoAtlas.Proofs.Store.SaveOrder
import RepoAtlas.Proofs.Topology.DataFlags
import RepoAtlas.Proofs.Topology.Focus
import RepoAtlas.Proofs.Topology.FocusedDot
import RepoAtlas.Proofs.Topology.Growth
import RepoAtlas.Proofs.Topology.Newcomer
import RepoAtlas.Proofs.Topology.PathQueries
import RepoAtlas.Proofs.Topology.UnreadableTargets
import RepoAtlas.Proofs.Types.ClassDiagram
import RepoAtlas.Proofs.Types.FlowListing
import RepoAtlas.Proofs.Types.Modules
import RepoAtlas.Proofs.Types.ScoreBounds
import RepoAtlas.Proofs.Types.SearchOrder
