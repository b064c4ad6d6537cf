import AutoscalerOperator.Api.Definition
import AutoscalerOperator.Api.Recorder
import AutoscalerOperator.Api.Request
import AutoscalerOperator.Api.Response
import AutoscalerOperator.Api.SchemaAnswer
import AutoscalerOperator.Api.Session
import AutoscalerOperator.Api.Uri
import AutoscalerOperator.Cluster.Basic
import AutoscalerOperator.ClusterOperator.Basic
import AutoscalerOperator.ClusterOperator.Coding
import AutoscalerOperator.ClusterOperator.Merge
import AutoscalerOperator.Config
import AutoscalerOperator.Controller.Definition
import AutoscalerOperator.Controller.Instance
import AutoscalerOperator.Controller.Schema
import AutoscalerOperator.Controller.Spec
import AutoscalerOperator.Double.Basic
import AutoscalerOperator.Double.Shortest
import AutoscalerOperator.Error
import AutoscalerOperator.Instant.Basic
import AutoscalerOperator.Instant.Reader
import AutoscalerOperator.Json.Basic
import AutoscalerOperator.Json.Block
import AutoscalerOperator.Json.Coding
import AutoscalerOperator.Json.DecodeError
import AutoscalerOperator.Json.Flaw
import AutoscalerOperator.Json.Lexeme
import AutoscalerOperator.Json.MergePatch
import AutoscalerOperator.Json.Nested
import AutoscalerOperator.Json.Pointer
import AutoscalerOperator.Json.Reader
import AutoscalerOperator.Json.Reading
import AutoscalerOperator.Json.Record
import AutoscalerOperator.Json.Render
import AutoscalerOperator.Json.Skip
import AutoscalerOperator.Json.TextPlace
import AutoscalerOperator.Kind
import AutoscalerOperator.Kubernetes.ConfigMap
import AutoscalerOperator.Kubernetes.Container
import AutoscalerOperator.Kubernetes.Deployment
import AutoscalerOperator.Kubernetes.Metadata
import AutoscalerOperator.Kubernetes.Namespace
import AutoscalerOperator.Kubernetes.Pod
import AutoscalerOperator.Kubernetes.Resources
import AutoscalerOperator.Kubernetes.Service
import AutoscalerOperator.Kubernetes.Volume
import AutoscalerOperator.Main
import AutoscalerOperator.Managed.Annotations
import AutoscalerOperator.Managed.Basic
import AutoscalerOperator.Managed.Converge
import AutoscalerOperator.Managed.Desired
import AutoscalerOperator.Managed.Rollout
import AutoscalerOperator.Merged
import AutoscalerOperator.Operand.Args
import AutoscalerOperator.Operand.Basic
import AutoscalerOperator.Operand.PodSpec
import AutoscalerOperator.Program
import AutoscalerOperator.Proofs.Cluster.Objects
import AutoscalerOperator.Proofs.Cluster.Writes
import AutoscalerOperator.Proofs.Execution.Answers
import AutoscalerOperator.Proofs.Execution.Runs
import AutoscalerOperator.Proofs.Execution.Simulated
import AutoscalerOperator.Proofs.Managed.Settled
import AutoscalerOperator.Proofs.Managed.Stamps
import AutoscalerOperator.Quantity
import AutoscalerOperator.Reconcile
import AutoscalerOperator.Requeue.Delay
import AutoscalerOperator.Requeue.Pass
import AutoscalerOperator.SelfHeal
import AutoscalerOperator.SemanticEquality
import AutoscalerOperator.Simulation.Basic
import AutoscalerOperator.Simulation.Trap
import AutoscalerOperator.SortedMap
import AutoscalerOperator.Status.Poll
import AutoscalerOperator.Status.Publish
import AutoscalerOperator.Status.Report
import AutoscalerOperator.Text.Base64
import AutoscalerOperator.Text.Blank
import AutoscalerOperator.Text.Invisible
import AutoscalerOperator.Text.Numeral
import AutoscalerOperator.Text.Quoted
import AutoscalerOperator.Proofs.Managed.Owned
import AutoscalerOperator.Proofs.Reconcile.Object
import AutoscalerOperator.Proofs.Reconcile.Pass
import AutoscalerOperator.Proofs.Reconcile.Fixpoint
import AutoscalerOperator.Proofs.Reconcile.Retry
import AutoscalerOperator.Proofs.Cluster.Versions
import AutoscalerOperator.Proofs.Concurrency.Careful
import AutoscalerOperator.Proofs.Status.Runs
import AutoscalerOperator.Proofs.Concurrency.LostUpdates
import AutoscalerOperator.Proofs.Json.Normal
import AutoscalerOperator.Proofs.Status.Wording
import AutoscalerOperator.Proofs.Status.History
import AutoscalerOperator.Proofs.Status.Published
import AutoscalerOperator.Proofs.Status.Transitions
import AutoscalerOperator.Proofs.Execution.Footprint
import AutoscalerOperator.Proofs.Status.Repeated
import AutoscalerOperator.Proofs.Status.Unchanged
import AutoscalerOperator.Proofs.Execution.Sink
import AutoscalerOperator.Proofs.Reconcile.Told
import AutoscalerOperator.Proofs.SelfHeal.Runs
import AutoscalerOperator.Proofs.SelfHeal.Once
import AutoscalerOperator.Proofs.Json.Congruence
import AutoscalerOperator.Proofs.Managed.Scope
import AutoscalerOperator.Proofs.Managed.Parts
import AutoscalerOperator.Proofs.Reconcile.History
import AutoscalerOperator.Proofs.Status.Stopping
import AutoscalerOperator.Proofs.SelfHeal.Marking
import AutoscalerOperator.Proofs.Json.Patching
import AutoscalerOperator.Proofs.Status.Patched
import AutoscalerOperator.Proofs.Status.Release
import AutoscalerOperator.Proofs.Quantity.Canonical
import AutoscalerOperator.Proofs.Json.Meaning
import AutoscalerOperator.Proofs.Managed.Drift
import AutoscalerOperator.Proofs.Reconcile.Frame
import AutoscalerOperator.Proofs.Managed.Edits
import AutoscalerOperator.Proofs.Reconcile.Locality
import AutoscalerOperator.Proofs.Managed.Mended
import AutoscalerOperator.Proofs.Quantity.Grammar
import AutoscalerOperator.Proofs.Quantity.Sound
import AutoscalerOperator.Proofs.Execution.Undisturbed
import AutoscalerOperator.Proofs.Status.Required
import AutoscalerOperator.Proofs.Status.Applied
import AutoscalerOperator.Proofs.Status.Classified
import AutoscalerOperator.Proofs.Quantity.Compared
import AutoscalerOperator.Proofs.Quantity.Reach
import AutoscalerOperator.Proofs.Managed.Selectors
import AutoscalerOperator.Proofs.Status.Owners
import AutoscalerOperator.Proofs.Status.Metadata
import AutoscalerOperator.Proofs.Operand.Overrides
import AutoscalerOperator.Proofs.Concurrency.Optimistic
import AutoscalerOperator.Proofs.SelfHeal.Checks
import AutoscalerOperator.Proofs.Status.Republished
import AutoscalerOperator.Proofs.Json.Canonical
import AutoscalerOperator.Proofs.Requeue.Backoff
import AutoscalerOperator.Proofs.Text.Numeral
import AutoscalerOperator.Proofs.Instant.Calendar
import AutoscalerOperator.Proofs.Instant.ReadBack
import AutoscalerOperator.Proofs.Storage.Decoded
import AutoscalerOperator.Proofs.Storage.Kinds
import AutoscalerOperator.Proofs.Cluster.Documents
import AutoscalerOperator.Proofs.Cluster.Stored
import AutoscalerOperator.Proofs.Cluster.Uids
import AutoscalerOperator.Proofs.Cluster.Atomic
