import AutoscalerOperator.Managed.Basic

namespace AutoscalerOperator

open Kubernetes

def convergeDeployment (current desired : Deployment) : Merged Deployment :=
  let want := desired.spec.getD {}
  let spec := current.spec.getD {}
  let pods := Merged.adopt spec.template.spec want.template.spec
  let repaired := { current with
    spec := some { spec with
      replicas := want.replicas
      template := { spec.template with spec := pods.value } } }
  let converged := repaired.stamped desired.metadata.release
  { value := converged
    changed := spec.replicas != want.replicas || pods.changed ||
      current.metadata.annotations != converged.metadata.annotations ||
      current.podAnnotations != converged.podAnnotations }

def convergeService (current desired : Service) : Merged Service :=
  let want := desired.spec.getD {}
  let spec := current.spec.getD {}
  let ports := Merged.adopt spec.ports want.ports
  let selector := Merged.adopt spec.selector want.selector
  let repaired := { current with
    spec := some { spec with ports := ports.value, selector := selector.value } }
  let converged := repaired.stamped desired.metadata.release Operand.certificateSecret
  { value := converged
    changed := ports.changed || selector.changed ||
      current.metadata.annotations != converged.metadata.annotations }

/-- Annotations only: the data of a config map belong to the cluster. -/
def convergeConfigMap (current desired : ConfigMap) : Merged ConfigMap :=
  let converged := current.stamped desired.metadata.release
  { value := converged
    changed := current.metadata.annotations != converged.metadata.annotations }

/-- Brings the fields that the operator owns in line with those of a desired object, and says
    whether any of them differed. All else stays as it is. -/
def ManagedKind.converge : (managed : ManagedKind) → managed.Object → managed.Object →
    Merged managed.Object
  | .deployment => convergeDeployment
  | .service => convergeService
  | .configMap => convergeConfigMap

end AutoscalerOperator
