import AutoscalerOperator.Kubernetes.Deployment

namespace AutoscalerOperator

namespace Kubernetes

def Deployment.isRolledOut (d : Deployment) : Bool :=
  match d.status with
  | none => false
  | some status =>
    let desired := (d.spec.bind (·.replicas)).getD 1
    let replicas := status.replicas.getD 0
    let updated := status.updatedReplicas.getD 0
    let available := status.availableReplicas.getD 0
    decide (d.metadata.generation.getD 0 ≤ status.observedGeneration.getD 0) &&
      updated == replicas && decide (desired ≤ updated) && decide (desired ≤ available) &&
      decide (0 < available)

end Kubernetes

end AutoscalerOperator
