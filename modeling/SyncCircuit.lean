import SyncCircuit.Build.Event
import SyncCircuit.Monitor.Display
import SyncCircuit.Network.Dot
import SyncCircuit.Run.Command
import SyncCircuit.Signals.Bounded
import SyncCircuit.Proofs.Run.Chronicle
import SyncCircuit.Proofs.Run.Consistency
import SyncCircuit.Proofs.Run.Edges
import SyncCircuit.Proofs.Run.Rollback
import SyncCircuit.Proofs.Run.Synchronous
import SyncCircuit.Proofs.Network.Embedding
import SyncCircuit.Proofs.Run.Workspace
import SyncCircuit.Proofs.Run.Correspondence
import SyncCircuit.Proofs.Build.Containment
import SyncCircuit.Proofs.Build.Reordering
import SyncCircuit.Proofs.Run.Order
import SyncCircuit.Proofs.Build.Extension
import SyncCircuit.Proofs.Monitor.Lookup
import SyncCircuit.Proofs.Network.Labels
import SyncCircuit.Proofs.Run.Extension
import SyncCircuit.Proofs.Run.Sources
import SyncCircuit.Proofs.Run.Observation
import SyncCircuit.Proofs.Run.Margin
import SyncCircuit.Proofs.Run.Lifecycle
import SyncCircuit.Proofs.Run.Snapshot
import SyncCircuit.Proofs.Build.Monitoring
import SyncCircuit.Proofs.Run.Monitoring
import SyncCircuit.Proofs.Network.Tables
import SyncCircuit.Proofs.Run.Lookups
import SyncCircuit.Proofs.Run.Safety
import SyncCircuit.Proofs.Graph.Traversal
import SyncCircuit.Proofs.Run.Marks
import SyncCircuit.Proofs.Run.Labels
import SyncCircuit.Proofs.Build.Feedback
import SyncCircuit.Proofs.Build.Drivers
import SyncCircuit.Proofs.Build.ReferenceErrors
import SyncCircuit.Proofs.Signals.Requests
import SyncCircuit.Proofs.Run.PassBound
import SyncCircuit.Proofs.Run.Log
import SyncCircuit.Proofs.Run.Display
import SyncCircuit.Proofs.Build.InputText
import SyncCircuit.Proofs.Network.Dot
import SyncCircuit.Proofs.Network.InputLabels
