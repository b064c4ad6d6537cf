import AutoscalerOperator.ClusterOperator.Coding
import AutoscalerOperator.Controller.Instance
import AutoscalerOperator.Kubernetes.ConfigMap
import AutoscalerOperator.Kubernetes.Deployment
import AutoscalerOperator.Kubernetes.Namespace
import AutoscalerOperator.Kubernetes.Service

namespace AutoscalerOperator

open Kubernetes

/-- A kind of object that the operator reads or writes; `ns` is that of namespaces. -/
inductive Kind
  | deployment
  | service
  | configMap
  | ns
  | controller
  | clusterOperator
  deriving DecidableEq, Inhabited

namespace Kind

abbrev Object : Kind → Type
  | .deployment => Deployment
  | .service => Service
  | .configMap => ConfigMap
  | .ns => Namespace
  | .controller => AutoscalerController
  | .clusterOperator => ClusterOperator

def all : List Kind := [.deployment, .service, .configMap, .ns, .controller, .clusterOperator]

def name : Kind → String
  | .deployment => "Deployment"
  | .service => "Service"
  | .configMap => "ConfigMap"
  | .ns => "Namespace"
  | .controller => AutoscalerController.kindName
  | .clusterOperator => ClusterOperator.kindName

def ofName? (name : String) : Option Kind := all.find? (·.name = name)

def plural : Kind → String
  | .deployment => "deployments"
  | .service => "services"
  | .configMap => "configmaps"
  | .ns => "namespaces"
  | .controller => "verticalpodautoscalercontrollers"
  | .clusterOperator => "clusteroperators"

def apiVersion : Kind → String
  | .deployment => "apps/v1"
  | .service | .configMap | .ns => "v1"
  | .controller => AutoscalerController.apiVersion
  | .clusterOperator => ClusterOperator.apiVersion

def isNamespaced : Kind → Bool
  | .ns | .clusterOperator => false
  | _ => true

def metadata : (kind : Kind) → kind.Object → ObjectMeta
  | .deployment, d => d.metadata
  | .service, s => s.metadata
  | .configMap, c => c.metadata
  | .ns, n => n.metadata
  | .controller, c => c.metadata
  | .clusterOperator, o => o.metadata

def withMetadata : (kind : Kind) → kind.Object → ObjectMeta → kind.Object
  | .deployment, d, m => { d with metadata := m }
  | .service, s, m => { s with metadata := m }
  | .configMap, c, m => { c with metadata := m }
  | .ns, n, m => { n with metadata := m }
  | .controller, c, m => { c with metadata := m }
  | .clusterOperator, o, m => { o with metadata := m }

def withStatusOf : (kind : Kind) → kind.Object → kind.Object → kind.Object
  | .deployment, d, other => { d with status := other.status }
  | .service, s, other => { s with status := other.status }
  | .configMap, c, _ => c
  | .ns, n, other => { n with status := other.status }
  | .controller, c, other => { c with status := other.status }
  | .clusterOperator, o, other => { o with status := other.status }

def withoutStatus : (kind : Kind) → kind.Object → kind.Object
  | .deployment, d => { d with status := none }
  | .service, s => { s with status := none }
  | .configMap, c => c
  | .ns, n => { n with status := none }
  | .controller, c => { c with status := none }
  | .clusterOperator, o => { o with status := none }

/-- An object as it is read back from its document. -/
def recognized : (kind : Kind) → kind.Object → kind.Object
  | .deployment, d => d
  | .service, s => s
  | .configMap, c => c
  | .ns, n => n
  | .controller, c => c
  | .clusterOperator, o => o.recognized

def sameSpec : (kind : Kind) → kind.Object → kind.Object → Bool
  | .deployment, a, b => a.spec == b.spec
  | .service, a, b => a.spec == b.spec
  | .configMap, _, _ => true
  | .ns, a, b => a.spec == b.spec
  | .controller, a, b => a.spec.plainZeros == b.spec.plainZeros
  | .clusterOperator, _, _ => true

def statusJson? : (kind : Kind) → kind.Object → Option Json
  | .deployment, d => d.status.map toJson
  | .service, s => s.status.map toJson
  | .configMap, _ => none
  | .ns, n => n.status.map toJson
  | .controller, c => c.status.map toJson
  | .clusterOperator, o => o.status.map toJson

instance : (kind : Kind) → ToJson kind.Object
  | .deployment => inferInstanceAs (ToJson Deployment)
  | .service => inferInstanceAs (ToJson Service)
  | .configMap => inferInstanceAs (ToJson ConfigMap)
  | .ns => inferInstanceAs (ToJson Namespace)
  | .controller => inferInstanceAs (ToJson AutoscalerController)
  | .clusterOperator => inferInstanceAs (ToJson ClusterOperator)

instance : (kind : Kind) → OfJson kind.Object
  | .deployment => inferInstanceAs (OfJson Deployment)
  | .service => inferInstanceAs (OfJson Service)
  | .configMap => inferInstanceAs (OfJson ConfigMap)
  | .ns => inferInstanceAs (OfJson Namespace)
  | .controller => inferInstanceAs (OfJson AutoscalerController)
  | .clusterOperator => inferInstanceAs (OfJson ClusterOperator)

instance : (kind : Kind) → DecidableEq kind.Object
  | .deployment => inferInstanceAs (DecidableEq Deployment)
  | .service => inferInstanceAs (DecidableEq Service)
  | .configMap => inferInstanceAs (DecidableEq ConfigMap)
  | .ns => inferInstanceAs (DecidableEq Namespace)
  | .controller => inferInstanceAs (DecidableEq AutoscalerController)
  | .clusterOperator => inferInstanceAs (DecidableEq ClusterOperator)

end Kind

end AutoscalerOperator
