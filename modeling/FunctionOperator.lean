import FunctionOperator.Text.Numeral
import FunctionOperator.SortedMap
import FunctionOperator.Duration
import FunctionOperator.Json.Printer
import FunctionOperator.Json.Reader
import FunctionOperator.Resource.Function
import FunctionOperator.Snapshot
import FunctionOperator.Ownership
import FunctionOperator.Cache.Routing
import FunctionOperator.Sync.Handler
import FunctionOperator.WorkQueue.Worker
import FunctionOperator.WorkQueue.Tasks
import FunctionOperator.Settings
import FunctionOperator.Resource.Ingress
import FunctionOperator.Resource.Workload
import FunctionOperator.Resource.FunctionIngress
import FunctionOperator.WorkQueue.Background
import FunctionOperator.Loop.FunctionIngress
import FunctionOperator.Loop.Function
import FunctionOperator.Admin.Handling
import FunctionOperator.Admin.Server
import FunctionOperator.Admin.FunctionShelf
import FunctionOperator.Resource.ClusterEvent
import FunctionOperator.Client.Functions
import FunctionOperator.Client.Writes
import FunctionOperator.Client.Discovery
import FunctionOperator.Client.EventLog
import FunctionOperator.Client.Script
import FunctionOperator.Client.Watcher
import FunctionOperator.Report.Failure
import FunctionOperator.Report.Cache
import FunctionOperator.Report.Client
import FunctionOperator.Loop.Rehearsal
import FunctionOperator.Definition.Kinds
import FunctionOperator.Operator
import FunctionOperator.Report.Ingress
import FunctionOperator.Report.Settings
import FunctionOperator.Main
import FunctionOperator.Proofs.WorkQueue.Delivery
import FunctionOperator.Proofs.Sync.WriteSafety
import FunctionOperator.Proofs.Convergence.Rest
import FunctionOperator.Proofs.Cache.Visibility
import FunctionOperator.Proofs.Loop.FunctionIngressRounds
import FunctionOperator.Proofs.Loop.FunctionRounds
import FunctionOperator.Proofs.DesiredState
import FunctionOperator.Proofs.Cache.Removal
import FunctionOperator.Proofs.Loop.Recreation
import FunctionOperator.Proofs.Json.Numerals
import FunctionOperator.Proofs.Json.Unknown
import FunctionOperator.Proofs.WholeObject
import FunctionOperator.Proofs.Metrics
import FunctionOperator.Proofs.WorkQueue.Pool
import FunctionOperator.Proofs.WorkQueue.Retries
import FunctionOperator.Proofs.WorkQueue.Shutdown
import FunctionOperator.Proofs.Sync.UnknownHistory
import FunctionOperator.Proofs.Cache.Relist
import FunctionOperator.Proofs.Exchange
import FunctionOperator.Proofs.Rendering.Annotations
import FunctionOperator.Proofs.Rendering.Environment
import FunctionOperator.Proofs.Rendering.Workload
import FunctionOperator.Proofs.Rendering.Path
import FunctionOperator.Proofs.Rendering.NodeSelector
import FunctionOperator.Proofs.Resource.Deployment
import FunctionOperator.Proofs.Admin.Replacement
import FunctionOperator.Proofs.Admin.Updates
import FunctionOperator.Proofs.WorkQueue.Objects
import FunctionOperator.Proofs.Admin.Listing
import FunctionOperator.Proofs.Settings
