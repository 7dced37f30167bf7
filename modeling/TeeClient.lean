import TeeClient.Bench.Excerpt
import TeeClient.Bench.PageSteps
import TeeClient.Bench.Scenario
import TeeClient.Bench.Script
import TeeClient.Proofs.Requests
import TeeClient.Proofs.Protocol.Runs
import TeeClient.Proofs.Direct.Runs
import TeeClient.Proofs.Breakdown
import TeeClient.Proofs.Lifecycles
import TeeClient.Proofs.Ledger.Runs
import TeeClient.Proofs.Cancelling.Runs
import TeeClient.Proofs.Instances
import TeeClient.Proofs.Windows.Runs
import TeeClient.Proofs.Containment.Runs
import TeeClient.Proofs.Secrecy.Runs
import TeeClient.Proofs.Rejections
import TeeClient.Proofs.Isolation
import TeeClient.Proofs.Independence.Runs
import TeeClient.Proofs.Returning
import TeeClient.Proofs.Publishing.Withdrawal
import TeeClient.Proofs.Publishing.Acceptance
import TeeClient.Proofs.Publishing.Residue
import TeeClient.Proofs.Device.Addresses
import TeeClient.Proofs.Device.Signals
import TeeClient.Proofs.Markers
import TeeClient.Proofs.Negotiation
import TeeClient.Proofs.Accounting
import TeeClient.Proofs.Accounting.Runs
import TeeClient.Proofs.Cancelling.Histories
import TeeClient.Proofs.Writing
import TeeClient.Proofs.Layout
import TeeClient.Proofs.Layout.Runs
import TeeClient.Proofs.Forms
import TeeClient.Proofs.Honouring
