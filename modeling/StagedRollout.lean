import StagedRollout.Rule.Match
import StagedRollout.Hash
import StagedRollout.Flag.Document
import StagedRollout.Decision.Evaluate
import StagedRollout.Trace
import StagedRollout.Exposure
import StagedRollout.Settings.Basic
import StagedRollout.Settings.Load
import StagedRollout.Json.Reader
import StagedRollout.Json.Writer
import StagedRollout.Http.Message
import StagedRollout.Outer.Http
import StagedRollout.Outer.Settings
import StagedRollout.Client.Memory
import StagedRollout.Client.Snapshot
import StagedRollout.Client.Remote
import StagedRollout.Proofs.Client.Run
import StagedRollout.Proofs.Client.Rest
import StagedRollout.Proofs.Client.Closing
import StagedRollout.Proofs.Client.Poller
import StagedRollout.Proofs.Client.Publication
import StagedRollout.Proofs.Flag.Accepted
import StagedRollout.Proofs.Decision.Safety
import StagedRollout.Proofs.Number.Rounding
import StagedRollout.Proofs.Number.Single
import StagedRollout.Proofs.Decision.Deciding
import StagedRollout.Proofs.Decision.Ramp
import StagedRollout.Proofs.Decision.Precedence
import StagedRollout.Proofs.Decision.Shares
import StagedRollout.Proofs.Flag.Refused
import StagedRollout.Proofs.Decision.Provenance
import StagedRollout.Proofs.Flag.Reordering
import StagedRollout.Proofs.Client.Accounting
import StagedRollout.Proofs.Client.Agreement
import StagedRollout.Proofs.Client.Escaping
import StagedRollout.Proofs.Json.Fuel
import StagedRollout.Proofs.Settings.Loading
import StagedRollout.Proofs.Decision.Dependence
import StagedRollout.Proofs.Value.Same
import StagedRollout.Proofs.Rule.Listed
import StagedRollout.Proofs.Rule.Evaluation
import StagedRollout.Proofs.Rule.Comparison
import StagedRollout.Proofs.Rule.Control
import StagedRollout.Proofs.Rule.Path
import StagedRollout.Proofs.Rule.Equality
import StagedRollout.Proofs.Value.Rearranged
import StagedRollout.Proofs.Rule.Insertion
import StagedRollout.Proofs.Rule.Normal
import StagedRollout.Proofs.Rule.Literal
import StagedRollout.Proofs.Rule.Missing
import StagedRollout.Proofs.Client.Asking
import StagedRollout.Proofs.Decision.Partition
import StagedRollout.Proofs.Decision.OwnSplits
import StagedRollout.Proofs.Value.Overlay
import StagedRollout.Proofs.Flag.Entries
import StagedRollout.Proofs.Client.Storing
import StagedRollout.Proofs.Client.Surveying
import StagedRollout.Proofs.Hash
import StagedRollout.Proofs.Text.Hexadecimal
import StagedRollout.Proofs.Trace
import StagedRollout.Proofs.Settings.Merging
