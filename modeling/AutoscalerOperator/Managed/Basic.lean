import AutoscalerOperator.Managed.Annotations
import AutoscalerOperator.Merged
import AutoscalerOperator.Operand.PodSpec

namespace AutoscalerOperator

open Kubernetes

inductive ManagedKind
  | deployment
  | service
  | configMap
  deriving DecidableEq, Inhabited

namespace ManagedKind

abbrev kind : ManagedKind → Kind
  | .deployment => .deployment
  | .service => .service
  | .configMap => .configMap

abbrev Object (managed : ManagedKind) : Type := managed.kind.Object

def ofKind? : Kind → Option ManagedKind
  | .deployment => some .deployment
  | .service => some .service
  | .configMap => some .configMap
  | _ => none

def label : ManagedKind → String
  | .deployment => "deployment"
  | .service => "service"
  | .configMap => "ConfigMap"

def getFailureReason : ManagedKind → String
  | .deployment => "FailedGetDeployment"
  | .service => "FailedGetService"
  | .configMap => "FailedGetConfigMap"

def stamped : (managed : ManagedKind) → managed.Object → String → managed.Object
  | .deployment, d, release => Deployment.stamped d release
  | .service, s, release => Service.stamped s release Operand.certificateSecret
  | .configMap, c, release => ConfigMap.stamped c release

end ManagedKind

structure ManagedObject where
  managed : ManagedKind
  object : managed.Object

end AutoscalerOperator
