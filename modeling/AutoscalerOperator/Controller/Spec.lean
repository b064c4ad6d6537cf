import AutoscalerOperator.Kubernetes.Pod

namespace AutoscalerOperator

open Kubernetes

structure ContainerOverride where
  /-- Appended to the container's arguments. -/
  args : List String := []
  resources : Option ResourceRequirements := none
  deriving DecidableEq, Inhabited

structure DeploymentOverride where
  container : ContainerOverride := {}
  nodeSelector : Labels := .empty
  tolerations : List Toleration := []
  deriving DecidableEq, Inhabited

structure DeploymentOverrides where
  admission : DeploymentOverride := {}
  recommender : DeploymentOverride := {}
  updater : DeploymentOverride := {}
  deriving DecidableEq, Inhabited

structure ControllerSpec where
  safetyMarginFraction : Option Double := none
  podMinCpuMillicores : Option Double := none
  podMinMemoryMb : Option Double := none
  recommendationOnly : Option Bool := none
  minReplicas : Option Int64 := none
  deploymentOverrides : DeploymentOverrides := {}
  deriving DecidableEq, Inhabited

def ContainerOverride.statedResources (o : ContainerOverride) : Option ResourceRequirements :=
  o.resources.filter (·.isStated)

namespace ControllerSpec

/-- Only an explicit `true` forbids acting on recommendations. -/
def isRecommendationOnly (spec : ControllerSpec) : Bool := spec.recommendationOnly == some true

/-- The numbers as they are compared: a zero has no sign. -/
def plainZeros (spec : ControllerSpec) : ControllerSpec :=
  { spec with
    safetyMarginFraction := spec.safetyMarginFraction.map (·.plainZero)
    podMinCpuMillicores := spec.podMinCpuMillicores.map (·.plainZero)
    podMinMemoryMb := spec.podMinMemoryMb.map (·.plainZero) }

end ControllerSpec

def Json.unlessEmpty {α : Type} [ToJson α] (values : List α) : Option Json :=
  if values.isEmpty then none else some (toJson values)

instance : ToJson ContainerOverride where
  toJson o := .record [
    ("args", Json.unlessEmpty o.args),
    ("resources", o.resources.map toJson)]

instance : OfJson ContainerOverride := ⟨.record "ContainerOverride" {} [
  .defaulted "args" fun r v => { r with args := v },
  .optional "resources" fun r v => { r with resources := v }]⟩

instance : ToJson DeploymentOverride where
  toJson o := .record [
    ("container", some (toJson o.container)),
    ("nodeSelector", if o.nodeSelector.isEmpty then none else some (toJson o.nodeSelector)),
    ("tolerations", Json.unlessEmpty o.tolerations)]

instance : OfJson DeploymentOverride := ⟨.record "DeploymentOverride" {} [
  .defaulted "container" fun r v => { r with container := v },
  .defaulted "nodeSelector" fun r v => { r with nodeSelector := v },
  .defaulted "tolerations" fun r v => { r with tolerations := v }]⟩

instance : ToJson DeploymentOverrides where
  toJson o := .record [
    ("admission", some (toJson o.admission)),
    ("recommender", some (toJson o.recommender)),
    ("updater", some (toJson o.updater))]

instance : OfJson DeploymentOverrides := ⟨.record "DeploymentOverrides" {} [
  .defaulted "admission" fun r v => { r with admission := v },
  .defaulted "recommender" fun r v => { r with recommender := v },
  .defaulted "updater" fun r v => { r with updater := v }]⟩

instance : ToJson ControllerSpec where
  toJson s := .record [
    ("deploymentOverrides", some (toJson s.deploymentOverrides)),
    ("minReplicas", s.minReplicas.map toJson),
    ("podMinCPUMillicores", s.podMinCpuMillicores.map toJson),
    ("podMinMemoryMb", s.podMinMemoryMb.map toJson),
    ("recommendationOnly", s.recommendationOnly.map toJson),
    ("safetyMarginFraction", s.safetyMarginFraction.map toJson)]

instance : OfJson ControllerSpec := ⟨.record "VerticalPodAutoscalerControllerSpec" {} [
  .optional "safetyMarginFraction" fun r v => { r with safetyMarginFraction := v },
  .optional "podMinCPUMillicores" fun r v => { r with podMinCpuMillicores := v },
  .optional "podMinMemoryMb" fun r v => { r with podMinMemoryMb := v },
  .optional "recommendationOnly" fun r v => { r with recommendationOnly := v },
  .optional "minReplicas" fun r v => { r with minReplicas := v },
  .defaulted "deploymentOverrides" fun r v => { r with deploymentOverrides := v }]⟩

end AutoscalerOperator
