import AutoscalerOperator.Config
import AutoscalerOperator.Controller.Instance

namespace AutoscalerOperator

open Kubernetes

inductive Operand
  | recommender
  | updater
  | admission
  deriving DecidableEq, Inhabited

namespace Operand

def all : List Operand := [.recommender, .updater, .admission]

def resourceName (operand : Operand) (instanceName : String) : String :=
  (match operand with
    | .recommender => "vpa-recommender"
    | .updater => "vpa-updater"
    | .admission => "vpa-admission-plugin") ++ "-" ++ instanceName

def appName : Operand → String
  | .recommender => "vpa-recommender"
  | .updater => "vpa-updater"
  | .admission => "vpa-admission-controller"

def command : Operand → String
  | .recommender => "recommender"
  | .updater => "updater"
  | .admission => "admission-controller"

def serviceAccount (operand : Operand) : String := operand.appName

/-- Whether the operand may run: the recommender always, the others only if recommendations may be
    acted on. -/
def isEnabled (operand : Operand) (spec : ControllerSpec) : Bool :=
  operand == .recommender || !spec.isRecommendationOnly

def replicas (operand : Operand) (spec : ControllerSpec) : Int32 :=
  if operand.isEnabled spec then 1 else 0

def overrideIn (operand : Operand) (spec : ControllerSpec) : DeploymentOverride :=
  match operand with
  | .recommender => spec.deploymentOverrides.recommender
  | .updater => spec.deploymentOverrides.updater
  | .admission => spec.deploymentOverrides.admission

def labels (operand : Operand) (instanceName : String) : Labels :=
  .ofList [("app", operand.appName), ("vertical-pod-autoscaler", instanceName)]

end Operand

end AutoscalerOperator
