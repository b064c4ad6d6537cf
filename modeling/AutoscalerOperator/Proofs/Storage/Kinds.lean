import AutoscalerOperator.Kind
import AutoscalerOperator.Proofs.Cluster.Documents
import AutoscalerOperator.Proofs.Storage.Decoded

namespace AutoscalerOperator

open Kubernetes

theorem Storable.map_toJson_inj {α : Type} [ToJson α] [OfJson α] {a b : Option α}
    (left : ∀ v, a = some v → Storable v) (right : ∀ v, b = some v → Storable v)
    (same : a.map toJson = b.map toJson) : a = b := by
  cases a with
  | none =>
    cases b with
    | none => rfl
    | some b => cases same
  | some a =>
    cases b with
    | none => cases same
    | some b => exact congrArg some ((left a rfl).eq_of_toJson (right b rfl) (Option.some.inj same))

namespace Kind

/-- An object whose moments and bytes a text can tell. -/
def Readable : (kind : Kind) → kind.Object → Prop
  | .deployment, d => Deployment.Readable d
  | .service, s => s.metadata.Readable
  | .configMap, c => ConfigMap.Readable c
  | .ns, n => n.metadata.Readable
  | .controller, c => c.metadata.Readable
  | .clusterOperator, o => ClusterOperator.Readable o

/-- The moments in what an object asks for are ones that a text can tell. -/
def SpecReadable : (kind : Kind) → kind.Object → Prop
  | .deployment, d => ∀ spec, d.spec = some spec → spec.Readable
  | _, _ => True

def plainZeros : (kind : Kind) → kind.Object → kind.Object
  | .controller, c => { c with spec := c.spec.plainZeros }
  | .deployment, object | .service, object | .configMap, object | .ns, object
  | .clusterOperator, object => object

/-- What an object asks for, as a document in which equal numbers are alike. -/
def specJson? (kind : Kind) (object : kind.Object) : Option Json :=
  (toJson (kind.plainZeros object)).get? "spec"

variable {kind : Kind} {a b object other : kind.Object}

theorem Readable.storable (readable : kind.Readable object) :
    Storable (kind.recognized object) := by
  cases kind with
  | deployment => exact Deployment.Readable.storable readable
  | service => exact Service.storable readable
  | configMap => exact ConfigMap.Readable.storable readable
  | ns => exact Namespace.storable readable
  | controller => exact AutoscalerController.storable readable
  | clusterOperator => exact ClusterOperator.Readable.storable readable

theorem Readable.recognized (readable : kind.Readable object) :
    kind.Readable (kind.recognized object) := by
  cases kind with
  | clusterOperator => exact ClusterOperator.Readable.recognized readable
  | _ => exact readable

theorem Readable.spec (readable : kind.Readable object) : kind.SpecReadable object := by
  cases kind with
  | deployment => exact Deployment.Readable.spec readable
  | _ => trivial

theorem Readable.metadata (readable : kind.Readable object) : (kind.metadata object).Readable := by
  cases kind with
  | deployment => exact Deployment.Readable.metadata readable
  | service => exact readable
  | configMap => exact ConfigMap.Readable.metadata readable
  | ns => exact readable
  | controller => exact readable
  | clusterOperator => exact ClusterOperator.Readable.metadata readable

theorem Readable.withMetadata {m : ObjectMeta} (readable : kind.Readable object)
    (told : m.Readable) : kind.Readable (kind.withMetadata object m) := by
  cases kind with
  | deployment => exact { readable with metadata := told }
  | service => exact told
  | configMap => exact { readable with metadata := told }
  | ns => exact told
  | controller => exact told
  | clusterOperator => exact { readable with metadata := told }

theorem Readable.withStatusOf (readable : kind.Readable object) (told : kind.Readable other) :
    kind.Readable (kind.withStatusOf object other) := by
  cases kind with
  | deployment =>
    have status : Deployment.Readable other := told
    exact { readable with status := status.status }
  | service => exact readable
  | configMap => exact readable
  | ns => exact readable
  | controller => exact readable
  | clusterOperator =>
    have status : ClusterOperator.Readable other := told
    exact { readable with status := status.status }

theorem Readable.withoutStatus (readable : kind.Readable object) :
    kind.Readable (kind.withoutStatus object) := by
  cases kind with
  | deployment => exact { readable with status := fun _ there => by cases there }
  | service => exact readable
  | configMap => exact readable
  | ns => exact readable
  | controller => exact readable
  | clusterOperator => exact { readable with status := fun _ there => by cases there }

theorem specJson?_eq_iff (left : kind.SpecReadable a) (right : kind.SpecReadable b) :
    kind.specJson? a = kind.specJson? b ↔ kind.sameSpec a b = true := by
  cases kind with
  | deployment =>
    have told (d : Deployment) : Kind.specJson? .deployment d = d.spec.map toJson := by
      refine (Json.get?_record _ _).trans ?_
      cases asked : d.spec <;> simp [plainZeros, asked]
    rw [told, told, sameSpec, beq_iff_eq]
    exact ⟨Storable.map_toJson_inj (fun spec there => (left spec there).storable)
      fun spec there => (right spec there).storable, congrArg _⟩
  | service =>
    have told (s : Service) : Kind.specJson? .service s = s.spec.map toJson := by
      refine (Json.get?_record _ _).trans ?_
      cases asked : s.spec <;> simp [plainZeros, asked]
    rw [told, told, sameSpec, beq_iff_eq]
    exact ⟨Storable.map_toJson_inj (fun _ _ => Lossless.storable _)
      fun _ _ => Lossless.storable _, congrArg _⟩
  | configMap =>
    have told (c : ConfigMap) : Kind.specJson? .configMap c = none :=
      (Json.get?_record _ _).trans (by simp)
    rw [told, told, sameSpec]
    exact iff_of_true rfl rfl
  | ns =>
    have told (n : Namespace) : Kind.specJson? .ns n = n.spec.map toJson := by
      refine (Json.get?_record _ _).trans ?_
      cases asked : n.spec <;> simp [plainZeros, asked]
    rw [told, told, sameSpec, beq_iff_eq]
    exact ⟨Storable.map_toJson_inj (fun _ _ => Lossless.storable _)
      fun _ _ => Lossless.storable _, congrArg _⟩
  | controller =>
    -- A zero is written with its sign, but compared without it.
    have told (c : AutoscalerController) :
        Kind.specJson? .controller c = some (toJson c.spec.plainZeros) :=
      (Json.get?_record _ _).trans (by simp [plainZeros])
    rw [told, told, sameSpec, beq_iff_eq]
    refine ⟨fun same => ?_, fun same => by rw [same]⟩
    exact (Lossless.storable _).eq_of_toJson (Lossless.storable _) (Option.some.inj same)
  | clusterOperator =>
    have told (o : ClusterOperator) : Kind.specJson? .clusterOperator o = some (.obj []) :=
      (Json.get?_record _ _).trans (by simp)
    rw [told, told, sameSpec]
    exact iff_of_true rfl rfl

theorem warranted (kind : Kind) :
    Warranted fun object : kind.Object => kind.Readable object ∧ kind.SpecReadable object := by
  have readable : Warranted kind.Readable := by
    cases kind with
    | deployment => exact Deployment.warranted
    | service => exact Service.warranted
    | configMap => exact ConfigMap.warranted
    | ns => exact Namespace.warranted
    | controller => exact AutoscalerController.warranted
    | clusterOperator => exact fun _ _ read => (ClusterOperator.readFrom read).2
  exact fun json object read => ⟨readable json object read, (readable json object read).spec⟩

end Kind

end AutoscalerOperator
