import AutoscalerOperator.Managed.Annotations
import AutoscalerOperator.Managed.Rollout
import AutoscalerOperator.Operand.Basic
import AutoscalerOperator.Status.Publish

namespace AutoscalerOperator

open Kubernetes Program

/-- Whether the recommender is rolled out at the current release. Without an instance there is
    nothing to roll out, which is as good. -/
def checkRecommender (config : Config) : Program (Except Error Bool) := do
  match ← ask (.get .controller (some config.watchNamespace) config.name) with
  | .error e => if e.isNotFound then return .ok true else return .error e
  | .ok _ =>
    let name := Operand.recommender.resourceName config.name
    match ← ask (.get .deployment (some config.operandNamespace) name) with
    | .error e => if e.isNotFound then return .ok false else return .error e
    | .ok deployment =>
      return .ok (deployment.metadata.isAtRelease config.releaseVersion && deployment.isRolledOut)

def availableStatus (config : Config) : ClusterOperatorStatus where
  conditions := [
    { type := .available, status := .true, message := "at version " ++ config.releaseVersion },
    { type := .progressing, status := .false },
    { type := .degraded, status := .false }]
  versions := some [⟨"operator", config.releaseVersion⟩]

def progressingStatus (config : Config) : ClusterOperatorStatus where
  conditions := [
    { type := .available, status := .true },
    { type := .progressing, status := .true, reason := "SyncingResources"
      message := "updating to " ++ config.releaseVersion },
    { type := .degraded, status := .false }]

def degradedStatus (e : Error) : ClusterOperatorStatus where
  conditions := [
    { type := .available, status := .true },
    { type := .progressing, status := .false },
    { type := .degraded, status := .true, reason := "UnableToCheckAutoscalers"
      message := "error checking VPA controllers status: " ++ e.message }]

def statusOf (config : Config) : Except Error Bool → ClusterOperatorStatus
  | .error e => degradedStatus e
  | .ok false => progressingStatus config
  | .ok true => availableStatus config

def publishFailure (checked : Except Error Bool) (e : Error) : Error :=
  match checked with
  | .error _ => e
  | .ok false => .context "failed to set progressing status" e
  | .ok true => .context "failed to set available status" e

/-- Checks the operands and publishes the matching status. The answer is whether they are available
    at the current release. -/
def reportStatus (config : Config) : Program (Except Error Bool) := do
  let checked ← checkRecommender config
  match ← applyStatus config (statusOf config checked) with
  | .ok _ => return .ok (checked.toOption.getD false)
  | .error e => return .error (publishFailure checked e)

end AutoscalerOperator
