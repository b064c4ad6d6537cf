import AutoscalerOperator.Kubernetes.Pod

namespace AutoscalerOperator.Kubernetes

def Shape.rollingUpdateDeployment : Shape := .record "RollingUpdateDeployment" []
  [("maxSurge", .intOrString), ("maxUnavailable", .intOrString)]

structure DeploymentStrategy where
  rollingUpdate : Option (Carried .rollingUpdateDeployment) := none
  strategyType : Option String := none
  deriving DecidableEq, Inhabited

instance : ToJson DeploymentStrategy where
  toJson r := .record [
    ("rollingUpdate", r.rollingUpdate.map toJson),
    ("type", r.strategyType.map toJson)]

instance : OfJson DeploymentStrategy := ⟨.object "DeploymentStrategy" {} [
  .optional "rollingUpdate" fun r v => { r with rollingUpdate := v },
  .optional "type" fun r v => { r with strategyType := v }]⟩

structure DeploymentSpec where
  replicas : Option Int32 := none
  selector : LabelSelector := {}
  template : PodTemplateSpec := {}
  strategy : Option DeploymentStrategy := none
  paused : Option Bool := none
  minReadySeconds : Option Int32 := none
  revisionHistoryLimit : Option Int32 := none
  progressDeadlineSeconds : Option Int32 := none
  deriving DecidableEq, Inhabited

instance : ToJson DeploymentSpec where
  toJson d := .record [
    ("minReadySeconds", d.minReadySeconds.map toJson),
    ("paused", d.paused.map toJson),
    ("progressDeadlineSeconds", d.progressDeadlineSeconds.map toJson),
    ("replicas", d.replicas.map toJson),
    ("revisionHistoryLimit", d.revisionHistoryLimit.map toJson),
    ("selector", some (toJson d.selector)),
    ("strategy", d.strategy.map toJson),
    ("template", some (toJson d.template))]

instance : OfJson DeploymentSpec := ⟨.object "DeploymentSpec" {} [
  .optional "minReadySeconds" fun r v => { r with minReadySeconds := v },
  .optional "paused" fun r v => { r with paused := v },
  .optional "progressDeadlineSeconds" fun r v => { r with progressDeadlineSeconds := v },
  .optional "replicas" fun r v => { r with replicas := v },
  .optional "revisionHistoryLimit" fun r v => { r with revisionHistoryLimit := v },
  .lenient "selector" {} fun r v => { r with selector := v },
  .optional "strategy" fun r v => { r with strategy := v },
  .lenient "template" {} fun r v => { r with template := v }]⟩

structure DeploymentCondition where
  conditionType : String := ""
  status : String := ""
  reason : Option String := none
  message : Option String := none
  lastTransitionTime : Option Instant := none
  lastUpdateTime : Option Instant := none
  deriving DecidableEq, Inhabited

instance : ToJson DeploymentCondition where
  toJson d := .record [
    ("lastTransitionTime", d.lastTransitionTime.map toJson),
    ("lastUpdateTime", d.lastUpdateTime.map toJson),
    ("message", d.message.map toJson),
    ("reason", d.reason.map toJson),
    ("status", some (toJson d.status)),
    ("type", some (toJson d.conditionType))]

instance : OfJson DeploymentCondition := ⟨.object "DeploymentCondition" {} [
  .optional "lastTransitionTime" fun r v => { r with lastTransitionTime := v },
  .optional "lastUpdateTime" fun r v => { r with lastUpdateTime := v },
  .optional "message" fun r v => { r with message := v },
  .optional "reason" fun r v => { r with reason := v },
  .lenient "status" "" fun r v => { r with status := v },
  .lenient "type" "" fun r v => { r with conditionType := v }]⟩

structure DeploymentStatus where
  availableReplicas : Option Int32 := none
  collisionCount : Option Int32 := none
  conditions : Option (List DeploymentCondition) := none
  observedGeneration : Option Int64 := none
  readyReplicas : Option Int32 := none
  replicas : Option Int32 := none
  unavailableReplicas : Option Int32 := none
  updatedReplicas : Option Int32 := none
  deriving DecidableEq, Inhabited

instance : ToJson DeploymentStatus where
  toJson r := .record [
    ("availableReplicas", r.availableReplicas.map toJson),
    ("collisionCount", r.collisionCount.map toJson),
    ("conditions", r.conditions.map toJson),
    ("observedGeneration", r.observedGeneration.map toJson),
    ("readyReplicas", r.readyReplicas.map toJson),
    ("replicas", r.replicas.map toJson),
    ("unavailableReplicas", r.unavailableReplicas.map toJson),
    ("updatedReplicas", r.updatedReplicas.map toJson)]

instance : OfJson DeploymentStatus := ⟨.object "DeploymentStatus" {} [
  .optional "availableReplicas" fun r v => { r with availableReplicas := v },
  .optional "collisionCount" fun r v => { r with collisionCount := v },
  .optional "conditions" fun r v => { r with conditions := v },
  .optional "observedGeneration" fun r v => { r with observedGeneration := v },
  .optional "readyReplicas" fun r v => { r with readyReplicas := v },
  .optional "replicas" fun r v => { r with replicas := v },
  .optional "unavailableReplicas" fun r v => { r with unavailableReplicas := v },
  .optional "updatedReplicas" fun r v => { r with updatedReplicas := v }]⟩

structure Deployment where
  metadata : ObjectMeta := {}
  spec : Option DeploymentSpec := none
  status : Option DeploymentStatus := none
  deriving DecidableEq, Inhabited

instance : ToJson Deployment where
  toJson d := .record [
    ("apiVersion", some (.str "apps/v1")),
    ("kind", some (.str "Deployment")),
    ("metadata", some (toJson d.metadata)),
    ("spec", d.spec.map toJson),
    ("status", d.status.map toJson)]

instance : OfJson Deployment := ⟨.object "Deployment" {} [
  .fixed "apiVersion" "apps/v1",
  .fixed "kind" "Deployment",
  .lenient "metadata" {} fun r v => { r with metadata := v },
  .optional "spec" fun r v => { r with spec := v },
  .optional "status" fun r v => { r with status := v }]⟩

end AutoscalerOperator.Kubernetes
