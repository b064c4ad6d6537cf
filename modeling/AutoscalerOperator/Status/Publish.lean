import AutoscalerOperator.ClusterOperator.Merge
import AutoscalerOperator.Config
import AutoscalerOperator.Program

namespace AutoscalerOperator

open Kubernetes Program

def operatorName : String := "vertical-pod-autoscaler"

def relatedNamespace (name : String) : RelatedObject := { resource := "namespaces", name }

def relatedObjects (config : Config) : List RelatedObject :=
  let watched := config.watchNamespace
  let operand := config.operandNamespace
  if watched = operand then [relatedNamespace watched]
  else if watched < operand then [relatedNamespace watched, relatedNamespace operand]
  else [relatedNamespace operand, relatedNamespace watched]

/-- A condition that has not changed its status since the previous ones keeps their time. -/
def Condition.since (c : Condition) (previous : List Condition) (now : Instant) : Condition :=
  let kept := (findCondition previous c.type).bind fun p =>
    if p.status = c.status then p.lastTransitionTime else none
  { c with lastTransitionTime := some (kept.getD now) }

/-- The status to publish: a reported one with what it leaves open taken from the previous one. A
    change of versions counts as progress. -/
def completedStatus (config : Config) (previous reported : ClusterOperatorStatus) (now : Instant) :
    ClusterOperatorStatus :=
  let versions := reported.versions.or previous.versions
  let conditions := reported.conditions.map (·.since previous.conditions now)
  { conditions :=
      if semanticEq versions previous.versions then conditions
      else resetProgressingTime now conditions
    versions
    relatedObjects := relatedObjects config
    extension := previous.extension }

def getOrCreateClusterOperator : Program (Except Error ClusterOperator) := do
  match ← ask (.get .clusterOperator none operatorName) with
  | .ok found => return .ok found
  | .error e =>
    if e.isNotFound then
      let fresh : ClusterOperator := { metadata := { name := some operatorName } }
      ask (.create .clusterOperator fresh)
    else return .error e

/-- Publishes a status if it says anything new, unless the operator has been told to stop. -/
def applyStatus (config : Config) (reported : ClusterOperatorStatus) :
    Program (Except Error Unit) := do
  if ← ask .cancelled then return .ok ()
  else
    match ← getOrCreateClusterOperator with
    | .error e => return .error e
    | .ok existing =>
      let now ← ask .now
      let status := completedStatus config (existing.status.getD {}) reported now
      let merged := mergeClusterOperator existing { existing with status := some status }
      if merged.changed then
        if ← ask .cancelled then return .ok ()
        else
          match ← ask (.replaceStatus .clusterOperator merged.value) with
          | .ok _ => return .ok ()
          | .error e => return .error e
      else return .ok ()

end AutoscalerOperator
