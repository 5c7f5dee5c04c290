import TabSearch.Main
import TabSearch.Registry.Display
import TabSearch.Proofs.EventLog.Numbering
import TabSearch.Proofs.Matching.Bytes
import TabSearch.Proofs.Matching.Folding
import TabSearch.Proofs.Matching.Shortcut
import TabSearch.Proofs.Registry.Attachment
import TabSearch.Proofs.Registry.Commutation
import TabSearch.Proofs.Registry.Directory
import TabSearch.Proofs.Registry.Focus
import TabSearch.Proofs.Registry.Frame
import TabSearch.Proofs.Registry.Handle
import TabSearch.Proofs.Registry.Landing
import TabSearch.Proofs.Registry.Observation
import TabSearch.Proofs.Registry.Panic
import TabSearch.Proofs.Registry.Redelivery
import TabSearch.Proofs.Registry.Replay
import TabSearch.Proofs.Report.Encoding
import TabSearch.Proofs.Report.Listing
import TabSearch.Proofs.Search.Agreement
import TabSearch.Proofs.Search.Prefix
import TabSearch.Proofs.Search.Scope
import TabSearch.Proofs.Session.Defaults
import TabSearch.Proofs.Snapshot.Format
