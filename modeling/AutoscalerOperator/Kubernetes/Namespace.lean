import AutoscalerOperator.Kubernetes.Metadata

namespace AutoscalerOperator.Kubernetes

def Shape.namespaceCondition : Shape := .record "NamespaceCondition"
  [("status", .text), ("type", .text)]
  [("lastTransitionTime", .time), ("message", .text), ("reason", .text)]

structure NamespaceSpec where
  finalizers : Option (List String) := none
  deriving DecidableEq, Inhabited

instance : ToJson NamespaceSpec where
  toJson n := .record [
    ("finalizers", n.finalizers.map toJson)]

instance : OfJson NamespaceSpec := ⟨.object "NamespaceSpec" {} [
  .optional "finalizers" fun r v => { r with finalizers := v }]⟩

structure NamespaceStatus where
  conditions : Option (Carried (.list .namespaceCondition)) := none
  phase : Option String := none
  deriving DecidableEq, Inhabited

instance : ToJson NamespaceStatus where
  toJson r := .record [
    ("conditions", r.conditions.map toJson),
    ("phase", r.phase.map toJson)]

instance : OfJson NamespaceStatus := ⟨.object "NamespaceStatus" {} [
  .optional "conditions" fun r v => { r with conditions := v },
  .optional "phase" fun r v => { r with phase := v }]⟩

structure Namespace where
  metadata : ObjectMeta := {}
  spec : Option NamespaceSpec := none
  status : Option NamespaceStatus := none
  deriving DecidableEq, Inhabited

instance : ToJson Namespace where
  toJson n := .record [
    ("apiVersion", some (.str "v1")),
    ("kind", some (.str "Namespace")),
    ("metadata", some (toJson n.metadata)),
    ("spec", n.spec.map toJson),
    ("status", n.status.map toJson)]

instance : OfJson Namespace := ⟨.object "Namespace" {} [
  .fixed "apiVersion" "v1",
  .fixed "kind" "Namespace",
  .lenient "metadata" {} fun r v => { r with metadata := v },
  .optional "spec" fun r v => { r with spec := v },
  .optional "status" fun r v => { r with status := v }]⟩

end AutoscalerOperator.Kubernetes
