import AssetSync.Codec
import AssetSync.Command.Files
import AssetSync.Config.Reading
import AssetSync.Main
import AssetSync.Proofs.Asset.Decision
import AssetSync.Proofs.Asset.Grammar
import AssetSync.Proofs.Codec
import AssetSync.Proofs.Config.Substitution
import AssetSync.Proofs.Config.Validation
import AssetSync.Proofs.Cycle.FetchSequence
import AssetSync.Proofs.Cycle.Meters
import AssetSync.Proofs.Cycle.Row
import AssetSync.Proofs.Cycle.Tally
import AssetSync.Proofs.Cycle.Updates
import AssetSync.Proofs.Lines.Convergence
import AssetSync.Proofs.Lines.Delivery
import AssetSync.Proofs.Lines.Discovery
import AssetSync.Proofs.Lines.LastRecord
import AssetSync.Proofs.Lines.Paging
import AssetSync.Proofs.Lines.Payloads
import AssetSync.Proofs.Run.Attempts
import AssetSync.Proofs.Run.Resumption
import AssetSync.Proofs.Run.Retained
import AssetSync.Proofs.Runner.Accounting
import AssetSync.Proofs.Runner.Limit
import AssetSync.Proofs.Runner.Summary
import AssetSync.Proofs.Store.Backends
import AssetSync.Proofs.Store.History
import AssetSync.Proofs.Store.Isolation
import AssetSync.Proofs.Store.Readers
import AssetSync.Proofs.Store.Windows
import AssetSync.Runner.Loop
import AssetSync.Source.Script
import AssetSync.Store.Refusing
import AssetSync.Store.Saved
