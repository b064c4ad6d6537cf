import AutoscalerOperator.Controller.Spec

namespace AutoscalerOperator

open Kubernetes

structure ControllerStatus where
  deriving DecidableEq, Inhabited

instance : ToJson ControllerStatus := ⟨fun _ => .obj []⟩

instance : OfJson ControllerStatus := ⟨.record "VerticalPodAutoscalerControllerStatus" {} []⟩

structure AutoscalerController where
  metadata : ObjectMeta := {}
  spec : ControllerSpec := {}
  status : Option ControllerStatus := none
  deriving DecidableEq, Inhabited

namespace AutoscalerController

def kindName : String := "VerticalPodAutoscalerController"

def apiVersion : String := "autoscaling.openshift.io/v1"

instance : ToJson AutoscalerController where
  toJson c := .record [
    ("apiVersion", some (.str apiVersion)),
    ("kind", some (.str kindName)),
    ("metadata", some (toJson c.metadata)),
    ("spec", some (toJson c.spec)),
    ("status", c.status.map toJson)]

instance : OfJson AutoscalerController := ⟨.record kindName {} [
  .required "metadata" fun r v => { r with metadata := v },
  .required "spec" fun r v => { r with spec := v },
  .put .inArrays "status" fun r v => { r with status := v }]⟩

def displayName (c : AutoscalerController) : String := c.metadata.nameOrGenerated

/-- Marks an object as controlled by the instance. An instance without a name or a uid controls
    nothing. -/
def ownerReference? (c : AutoscalerController) : Option OwnerReference := do
  return {
    apiVersion, kind := kindName
    name := ← c.metadata.name
    uid := ← c.metadata.uid
    controller := some true }

def reference (c : AutoscalerController) : ObjectReference where
  apiVersion := some apiVersion
  kind := some kindName
  name := c.metadata.name
  namespaceName := c.metadata.namespaceName
  uid := c.metadata.uid

def ratio (num den : Nat) : Option Double := Double.ofRatio? false num den

def defaultInstance (name namespaceName : String) : AutoscalerController where
  metadata := { name := some name, namespaceName := some namespaceName }
  spec := {
    safetyMarginFraction := ratio 15 100
    podMinCpuMillicores := ratio 25 1
    podMinMemoryMb := ratio 250 1
    recommendationOnly := some false
    minReplicas := some 2 }

end AutoscalerController

end AutoscalerOperator
