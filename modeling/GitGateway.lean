import GitGateway.Log.Filter
import GitGateway.Main
import GitGateway.PktLine.Line
import GitGateway.Proofs.Correlation
import GitGateway.Proofs.DetailInsertion
import GitGateway.Proofs.NoticeLines
import GitGateway.Proofs.Writers
import GitGateway.Shutdown
import GitGateway.Proofs.Discretion
import GitGateway.Proofs.Accounting
import GitGateway.Proofs.Containment
import GitGateway.Proofs.Spelling
import GitGateway.Proofs.Streaming
import GitGateway.Proofs.Acceptance
import GitGateway.Proofs.Release
import GitGateway.Proofs.Causes
import GitGateway.Proofs.Detection
import GitGateway.Proofs.FullNotice
import GitGateway.Proofs.Cut
import GitGateway.Proofs.ServicePath
import GitGateway.Proofs.Padding
import GitGateway.Proofs.Forwarding
import GitGateway.Proofs.Settings.Reading
import GitGateway.Proofs.Settings.Uses
import GitGateway.Proofs.Settings.BackendAddress
import GitGateway.Proofs.Slices
