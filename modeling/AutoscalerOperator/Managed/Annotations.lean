import AutoscalerOperator.Kind

namespace AutoscalerOperator

open Kubernetes

/-- Holds the release of the operator that an object was last reconciled by. -/
def releaseAnnotation : String := "release.openshift.io/version"

/-- Marks pods as critical to the cluster, by being there. -/
def criticalPodAnnotation : String := "scheduler.alpha.kubernetes.io/critical-pod"

def servingCertificateAnnotation : String :=
  "service.beta.openshift.io/serving-cert-secret-name"

def injectAuthoritiesAnnotation : String := "service.beta.openshift.io/inject-cabundle"

namespace Kubernetes.ObjectMeta

def stamped (m : ObjectMeta) (release : String) : ObjectMeta :=
  (m.annotate criticalPodAnnotation "").annotate releaseAnnotation release

def release (m : ObjectMeta) : String := (m.annotation? releaseAnnotation).getD ""

def isAtRelease (m : ObjectMeta) (release : String) : Bool :=
  m.annotation? releaseAnnotation == some release

end Kubernetes.ObjectMeta

namespace Kubernetes

def Deployment.podAnnotations (d : Deployment) : Option Labels :=
  d.spec.bind fun spec => spec.template.metadata.bind (·.annotations)

def Deployment.stamped (d : Deployment) (release : String) : Deployment :=
  let spec := d.spec.getD {}
  let podMetadata := spec.template.metadata.getD {}
  { d with
    metadata := d.metadata.stamped release
    spec := some { spec with
      template := { spec.template with metadata := some (podMetadata.stamped release) } } }

def Service.stamped (s : Service) (release certificateSecret : String) : Service :=
  { s with
    metadata := (s.metadata.stamped release).annotate servingCertificateAnnotation
      certificateSecret }

def ConfigMap.stamped (c : ConfigMap) (release : String) : ConfigMap :=
  { c with metadata := (c.metadata.stamped release).annotate injectAuthoritiesAnnotation "true" }

end Kubernetes

end AutoscalerOperator
