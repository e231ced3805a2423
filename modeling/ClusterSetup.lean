import ClusterSetup.FileTree
import ClusterSetup.Main
import ClusterSetup.Rehearsal
import ClusterSetup.SearchPath
import ClusterSetup.Proofs.Guards.Acquiring
import ClusterSetup.Proofs.Step.Entering
import ClusterSetup.Proofs.Step.Completing
import ClusterSetup.Proofs.Step.Reporting
import ClusterSetup.Proofs.Step.Progress
import ClusterSetup.Proofs.Session.Arena
import ClusterSetup.Proofs.Session.Moves
import ClusterSetup.Proofs.Session.Changes
import ClusterSetup.Proofs.Session.Operations
import ClusterSetup.Proofs.Session.Validity
import ClusterSetup.Proofs.Session.Reading
import ClusterSetup.Proofs.Session.Placement
import ClusterSetup.Proofs.Session.Accounting
import ClusterSetup.Proofs.Session.Histories
import ClusterSetup.Proofs.Session.Success
import ClusterSetup.Proofs.Session.Outstanding
import ClusterSetup.Proofs.Session.Cancellation
import ClusterSetup.Proofs.Session.Atomicity
import ClusterSetup.Proofs.Session.Navigation
import ClusterSetup.Proofs.Session.Progress
import ClusterSetup.Proofs.Session.Verdicts
import ClusterSetup.Proofs.Office
import ClusterSetup.Proofs.Step.Following
import ClusterSetup.Proofs.Session.Termination
import ClusterSetup.Proofs.Session.Logs
import ClusterSetup.Proofs.Session.Performing
import ClusterSetup.Proofs.Step.Commands
import ClusterSetup.Proofs.Session.Calls
import ClusterSetup.Proofs.Session.AutomaticInstalls
import ClusterSetup.Proofs.Session.Offers
import ClusterSetup.Proofs.Session.Authorisation
import ClusterSetup.Proofs.Step.Joining
import ClusterSetup.Proofs.Session.Joining
import ClusterSetup.Proofs.Session.DeliveryOrder
import ClusterSetup.Proofs.Session.Refusals
import ClusterSetup.Proofs.Session.Connectivity
import ClusterSetup.Proofs.Session.EventLog
import ClusterSetup.Proofs.Guards.Restriction
import ClusterSetup.Proofs.Session.Confinement
import ClusterSetup.Proofs.Session.Acts
import ClusterSetup.Proofs.Office.Interleaving
import ClusterSetup.Proofs.Session.Evidence
import ClusterSetup.Proofs.Session.Statuses
import ClusterSetup.Proofs.Session.LastVerdict
import ClusterSetup.Proofs.Session.Secrets
import ClusterSetup.Proofs.Session.Noninterference
import ClusterSetup.Proofs.Session.Occasions
import ClusterSetup.Proofs.Session.Resting
import ClusterSetup.Proofs.Session.Credentials
import ClusterSetup.Proofs.Session.Repetition
import ClusterSetup.Proofs.Session.Attempts
import ClusterSetup.Proofs.Session.Candidates
import ClusterSetup.Proofs.Session.HostData
import ClusterSetup.Proofs.Session.Membership
import ClusterSetup.Proofs.Step.Reprobing
import ClusterSetup.Proofs.Text.Replacing
import ClusterSetup.Proofs.Text.Splitting
import ClusterSetup.Proofs.Version.Order
import ClusterSetup.Proofs.Version.Sorting
import ClusterSetup.Proofs.Version.Numerals
import ClusterSetup.Proofs.Methods
import ClusterSetup.Proofs.Session.Methods
import ClusterSetup.Proofs.Rendering
import ClusterSetup.Proofs.Session.Versions
import ClusterSetup.Proofs.Step.StackRules
import ClusterSetup.Proofs.Session.Detections
import ClusterSetup.Proofs.Addresses
import ClusterSetup.Proofs.Config
import ClusterSetup.Proofs.Guards.Lending
import ClusterSetup.Proofs.Roster
