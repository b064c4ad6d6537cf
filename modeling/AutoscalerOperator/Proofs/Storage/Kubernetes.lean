import AutoscalerOperator.Kind
import AutoscalerOperator.Proofs.Storage.Carried

namespace AutoscalerOperator

namespace Kubernetes

/-! Of each record: by which rule each member that it is written with fills the record again. -/

instance : Lossless OwnerReference := ⟨fun _ => .of_object rfl rfl <|
  .lenient rfl <| .optional rfl rfl <| .optional rfl rfl <| .lenient rfl <| .lenient rfl <|
  .lenient rfl .nil⟩

instance : Lossless LabelSelector := ⟨fun _ => .of_object rfl rfl <|
  .optional rfl rfl <| .optional rfl rfl .nil⟩

instance : Lossless ResourceClaim := ⟨fun _ => .of_object rfl rfl <|
  .lenient rfl <| .optional rfl rfl .nil⟩

instance : Lossless ResourceRequirements := ⟨fun _ => .of_object rfl rfl <|
  .optional rfl rfl <| .optional rfl rfl <| .optional rfl rfl .nil⟩

instance : Lossless ObjectFieldSelector := ⟨fun _ => .of_object rfl rfl <|
  .optional rfl rfl <| .lenient rfl .nil⟩

instance : Lossless EnvVarSource := ⟨fun _ => .of_object rfl rfl <|
  .optional rfl rfl <| .optional rfl rfl <| .optional rfl rfl <| .optional rfl rfl .nil⟩

instance : Lossless EnvVar := ⟨fun _ => .of_object rfl rfl <|
  .lenient rfl <| .optional rfl rfl <| .optional rfl rfl .nil⟩

instance : Lossless Capabilities := ⟨fun _ => .of_object rfl rfl <|
  .optional rfl rfl <| .optional rfl rfl .nil⟩

instance : Lossless SeccompProfile := ⟨fun _ => .of_object rfl rfl <|
  .optional rfl rfl <| .lenient rfl .nil⟩

instance : Lossless SecurityContext := ⟨fun _ => .of_object rfl rfl <|
  .optional rfl rfl <| .optional rfl rfl <| .optional rfl rfl <| .optional rfl rfl <|
  .optional rfl rfl <| .optional rfl rfl <| .optional rfl rfl <| .optional rfl rfl <|
  .optional rfl rfl <| .optional rfl rfl <| .optional rfl rfl <| .optional rfl rfl .nil⟩

instance : Lossless ContainerPort := ⟨fun _ => .of_object rfl rfl <|
  .lenient rfl <| .optional rfl rfl <| .optional rfl rfl <| .optional rfl rfl <|
  .optional rfl rfl .nil⟩

instance : Lossless VolumeMount := ⟨fun _ => .of_object rfl rfl <|
  .lenient rfl <| .optional rfl rfl <| .lenient rfl <| .optional rfl rfl <| .optional rfl rfl <|
  .optional rfl rfl <| .optional rfl rfl .nil⟩

instance : Lossless Probe := ⟨fun _ => .of_object rfl rfl <|
  .optional rfl rfl <| .optional rfl rfl <| .optional rfl rfl <| .optional rfl rfl <|
  .optional rfl rfl <| .optional rfl rfl <| .optional rfl rfl <| .optional rfl rfl <|
  .optional rfl rfl <| .optional rfl rfl .nil⟩

instance : Lossless Container := ⟨fun _ => .of_object rfl rfl <|
  .optional rfl rfl <| .optional rfl rfl <| .optional rfl rfl <| .optional rfl rfl <|
  .optional rfl rfl <| .optional rfl rfl <| .optional rfl rfl <| .optional rfl rfl <|
  .lenient rfl <| .optional rfl rfl <| .optional rfl rfl <| .optional rfl rfl <|
  .optional rfl rfl <| .optional rfl rfl <| .optional rfl rfl <| .optional rfl rfl <|
  .optional rfl rfl <| .optional rfl rfl <| .optional rfl rfl <| .optional rfl rfl <|
  .optional rfl rfl <| .optional rfl rfl <| .optional rfl rfl <| .optional rfl rfl .nil⟩

instance : Lossless SecretVolumeSource := ⟨fun _ => .of_object rfl rfl <|
  .optional rfl rfl <| .optional rfl rfl <| .optional rfl rfl <| .optional rfl rfl .nil⟩

instance : Lossless ConfigMapVolumeSource := ⟨fun _ => .of_object rfl rfl <|
  .optional rfl rfl <| .optional rfl rfl <| .lenient rfl <| .optional rfl rfl .nil⟩

instance : Lossless EmptyDirVolumeSource := ⟨fun _ => .of_object rfl rfl <|
  .optional rfl rfl <| .optional rfl rfl .nil⟩

instance : Lossless Volume := ⟨fun _ => .of_object rfl rfl <|
  .optional rfl rfl <| .optional rfl rfl <| .optional rfl rfl <| .optional rfl rfl <|
  .optional rfl rfl <| .optional rfl rfl <| .optional rfl rfl <| .optional rfl rfl <|
  .optional rfl rfl <| .optional rfl rfl <| .optional rfl rfl <| .optional rfl rfl <|
  .optional rfl rfl <| .optional rfl rfl <| .optional rfl rfl <| .optional rfl rfl <|
  .optional rfl rfl <| .optional rfl rfl <| .optional rfl rfl <| .lenient rfl <|
  .optional rfl rfl <| .optional rfl rfl <| .optional rfl rfl <| .optional rfl rfl <|
  .optional rfl rfl <| .optional rfl rfl <| .optional rfl rfl <| .optional rfl rfl <|
  .optional rfl rfl <| .optional rfl rfl <| .optional rfl rfl .nil⟩

instance : Lossless Toleration := ⟨fun _ => .of_object rfl rfl <|
  .optional rfl rfl <| .optional rfl rfl <| .optional rfl rfl <| .optional rfl rfl <|
  .optional rfl rfl .nil⟩

instance : Lossless PodSecurityContext := ⟨fun _ => .of_object rfl rfl <|
  .optional rfl rfl <| .optional rfl rfl <| .optional rfl rfl <| .optional rfl rfl <|
  .optional rfl rfl <| .optional rfl rfl <| .optional rfl rfl <| .optional rfl rfl <|
  .optional rfl rfl <| .optional rfl rfl <| .optional rfl rfl <| .optional rfl rfl .nil⟩

instance : Lossless LocalObjectReference := ⟨fun _ => .of_object rfl rfl <| .lenient rfl .nil⟩

instance : Lossless PodSpec := ⟨fun _ => .of_object rfl rfl <|
  .optional rfl rfl <| .optional rfl rfl <| .optional rfl rfl <| .lenient rfl <|
  .optional rfl rfl <| .optional rfl rfl <| .optional rfl rfl <| .optional rfl rfl <|
  .optional rfl rfl <| .optional rfl rfl <| .optional rfl rfl <| .optional rfl rfl <|
  .optional rfl rfl <| .optional rfl rfl <| .optional rfl rfl <| .optional rfl rfl <|
  .optional rfl rfl <| .optional rfl rfl <| .optional rfl rfl <| .optional rfl rfl <|
  .optional rfl rfl <| .optional rfl rfl <| .optional rfl rfl <| .optional rfl rfl <|
  .optional rfl rfl <| .optional rfl rfl <| .optional rfl rfl <| .optional rfl rfl <|
  .optional rfl rfl <| .optional rfl rfl <| .optional rfl rfl <| .optional rfl rfl <|
  .optional rfl rfl <| .optional rfl rfl <| .optional rfl rfl <| .optional rfl rfl <|
  .optional rfl rfl <| .optional rfl rfl <| .optional rfl rfl .nil⟩

instance : Lossless DeploymentStrategy := ⟨fun _ => .of_object rfl rfl <|
  .optional rfl rfl <| .optional rfl rfl .nil⟩

instance : Lossless ServicePort := ⟨fun _ => .of_object rfl rfl <|
  .optional rfl rfl <| .optional rfl rfl <| .optional rfl rfl <| .lenient rfl <|
  .optional rfl rfl <| .optional rfl rfl .nil⟩

instance : Lossless ServiceSpec := ⟨fun _ => .of_object rfl rfl <|
  .optional rfl rfl <| .optional rfl rfl <| .optional rfl rfl <| .optional rfl rfl <|
  .optional rfl rfl <| .optional rfl rfl <| .optional rfl rfl <| .optional rfl rfl <|
  .optional rfl rfl <| .optional rfl rfl <| .optional rfl rfl <| .optional rfl rfl <|
  .optional rfl rfl <| .optional rfl rfl <| .optional rfl rfl <| .optional rfl rfl <|
  .optional rfl rfl <| .optional rfl rfl <| .optional rfl rfl <| .optional rfl rfl .nil⟩

instance : Lossless LoadBalancerIngress := ⟨fun _ => .of_object rfl rfl <|
  .optional rfl rfl <| .optional rfl rfl <| .optional rfl rfl <| .optional rfl rfl .nil⟩

instance : Lossless LoadBalancerStatus := ⟨fun _ => .of_object rfl rfl <| .optional rfl rfl .nil⟩

instance : Lossless ServiceStatus := ⟨fun _ => .of_object rfl rfl <|
  .optional rfl rfl <| .optional rfl rfl .nil⟩

instance : Lossless NamespaceSpec := ⟨fun _ => .of_object rfl rfl <| .optional rfl rfl .nil⟩

instance : Lossless NamespaceStatus := ⟨fun _ => .of_object rfl rfl <|
  .optional rfl rfl <| .optional rfl rfl .nil⟩

structure ObjectMeta.Readable (m : ObjectMeta) : Prop where
  created : ∀ t, m.creationTimestamp = some t → t.Readable
  deleted : ∀ t, m.deletionTimestamp = some t → t.Readable

theorem ObjectMeta.Readable.storable {m : ObjectMeta} (readable : m.Readable) : Storable m :=
  .of_object rfl rfl <|
    .optional rfl rfl <|
    .optional_of rfl rfl (fun t told => (readable.created t told).storable) <|
    .optional rfl rfl <|
    .optional_of rfl rfl (fun t told => (readable.deleted t told).storable) <|
    .optional rfl rfl <| .optional rfl rfl <| .optional rfl rfl <| .optional rfl rfl <|
    .optional rfl rfl <| .optional rfl rfl <| .optional rfl rfl <| .optional rfl rfl <|
    .optional rfl rfl <| .optional rfl rfl <| .optional rfl rfl .nil

def PodTemplateSpec.Readable (p : PodTemplateSpec) : Prop := ∀ m, p.metadata = some m → m.Readable

theorem PodTemplateSpec.Readable.storable {p : PodTemplateSpec} (readable : p.Readable) :
    Storable p :=
  .of_object rfl rfl <|
    .optional_of rfl rfl (fun m told => (readable m told).storable) <| .optional rfl rfl .nil

def DeploymentSpec.Readable (d : DeploymentSpec) : Prop := d.template.Readable

theorem DeploymentSpec.Readable.storable {d : DeploymentSpec} (readable : d.Readable) :
    Storable d :=
  .of_object rfl rfl <|
    .optional rfl rfl <| .optional rfl rfl <| .optional rfl rfl <| .optional rfl rfl <|
    .optional rfl rfl <| .lenient rfl <| .optional rfl rfl <|
    .lenient_of rfl (PodTemplateSpec.Readable.storable readable) .nil

structure DeploymentCondition.Readable (c : DeploymentCondition) : Prop where
  changed : ∀ t, c.lastTransitionTime = some t → t.Readable
  updated : ∀ t, c.lastUpdateTime = some t → t.Readable

theorem DeploymentCondition.Readable.storable {c : DeploymentCondition} (readable : c.Readable) :
    Storable c :=
  .of_object rfl rfl <|
    .optional_of rfl rfl (fun t told => (readable.changed t told).storable) <|
    .optional_of rfl rfl (fun t told => (readable.updated t told).storable) <|
    .optional rfl rfl <| .optional rfl rfl <| .lenient rfl <| .lenient rfl .nil

def DeploymentStatus.Readable (s : DeploymentStatus) : Prop :=
  ∀ conditions, s.conditions = some conditions → ∀ c ∈ conditions, c.Readable

theorem DeploymentStatus.Readable.storable {s : DeploymentStatus} (readable : s.Readable) :
    Storable s :=
  .of_object rfl rfl <|
    .optional rfl rfl <| .optional rfl rfl <|
    .optional_of rfl rfl (fun conditions told =>
      storable_list fun c member => (readable conditions told c member).storable) <|
    .optional rfl rfl <| .optional rfl rfl <| .optional rfl rfl <| .optional rfl rfl <|
    .optional rfl rfl .nil

structure Deployment.Readable (d : Deployment) : Prop where
  metadata : d.metadata.Readable
  spec : ∀ spec, d.spec = some spec → spec.Readable
  status : ∀ status, d.status = some status → status.Readable

theorem Deployment.Readable.storable {d : Deployment} (readable : d.Readable) : Storable d :=
  .of_object rfl rfl <|
    .fixed rfl <| .fixed rfl <| .lenient_of rfl readable.metadata.storable <|
    .optional_of rfl rfl (fun spec told => (readable.spec spec told).storable) <|
    .optional_of rfl rfl (fun status told => (readable.status status told).storable) .nil

theorem Service.storable {s : Service} (readable : s.metadata.Readable) : Storable s :=
  .of_object rfl rfl <|
    .fixed rfl <| .fixed rfl <| .lenient_of rfl readable.storable <| .optional rfl rfl <|
    .optional rfl rfl .nil

theorem Namespace.storable {n : Namespace} (readable : n.metadata.Readable) : Storable n :=
  .of_object rfl rfl <|
    .fixed rfl <| .fixed rfl <| .lenient_of rfl readable.storable <| .optional rfl rfl <|
    .optional rfl rfl .nil

def ByteString.Readable (bytes : ByteString) : Prop :=
  Text.Base64.check bytes.base64.toUTF8.toList = .ok ()

theorem ByteString.Readable.storable {bytes : ByteString} (readable : bytes.Readable) :
    Storable bytes := by
  refine ⟨nofun, ?_⟩
  unfold ByteString.Readable at readable
  simp only [ofJson, toJson, OfJson.decoder, Decoder.simple, readable]
  rfl

structure ConfigMap.Readable (c : ConfigMap) : Prop where
  metadata : c.metadata.Readable
  binaryData : ∀ data, c.binaryData = some data → ∀ entry ∈ data.entries, entry.2.Readable

theorem ConfigMap.Readable.storable {c : ConfigMap} (readable : c.Readable) : Storable c :=
  .of_object rfl rfl <|
    .fixed rfl <|
    .optional_of rfl rfl (fun data told => storable_sortedMap fun entry member =>
      (readable.binaryData data told entry member).storable) <|
    .optional rfl rfl <| .optional rfl rfl <| .fixed rfl <|
    .lenient_of rfl readable.metadata.storable .nil

end Kubernetes

end AutoscalerOperator
