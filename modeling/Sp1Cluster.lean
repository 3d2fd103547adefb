import Sp1Cluster.Coordinator.Fairness
import Sp1Cluster.Coordinator.Counters
import Sp1Cluster.Coordinator.Charges
import Sp1Cluster.Subscriptions.Wakeups
import Sp1Cluster.Subscriptions.Agreement
import Sp1Cluster.Cluster.Claiming
import Sp1Cluster.Coordinator.Crediting
import Sp1Cluster.Coordinator.Duplicates
import Sp1Cluster.Coordinator.Reassigning
import Sp1Cluster.Coordinator.Idleness
import Sp1Cluster.Coordinator.Sweeps
import Sp1Cluster.Node.Reconciliation
import Sp1Cluster.Channels.Delivery
import Sp1Cluster.Cluster.Outcomes
import Sp1Cluster.Subscriptions.Refusals
import Sp1Cluster.Subscriptions.Custody
import Sp1Cluster.Artifacts.Downloads
import Sp1Cluster.Artifacts.Admission
import Sp1Cluster.Artifacts.References
import Sp1Cluster.Coordinator.Priority
import Sp1Cluster.Coordinator.Looping
import Sp1Cluster.Coordinator.Choosing
import Sp1Cluster.Coordinator.GpuNodes
import Sp1Cluster.Gateway.Programs
import Sp1Cluster.Gateway.Displays
import Sp1Cluster.Fulfillment.Causes
import Sp1Cluster.Fulfillment.Answers
import Sp1Cluster.Node.Redelivery
import Sp1Cluster.Bidder.Amounts
import Sp1Cluster.Bidder.Load
import Sp1Cluster.Node.Tracking
import Sp1Cluster.Client.Reports
import Sp1Cluster.Client.Batches
import Sp1Cluster.Fulfillment.Components
import Sp1Cluster.Artifacts.Transfers
