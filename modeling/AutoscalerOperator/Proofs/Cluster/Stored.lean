import AutoscalerOperator.Proofs.Cluster.Settled
import AutoscalerOperator.Proofs.Storage.Kinds

namespace AutoscalerOperator

open Kubernetes

namespace Kind

/-- What becomes of an object that is created as the version of a number, by its document. -/
structure CreatedFrom (kind : Kind) (number : UInt64) (object stored : kind.Object) : Prop where
  rest : (toJson stored).SameBut ["metadata", "status"] (toJson object)
  status : (toJson stored).get? "status" = none
  metadata : (toJson stored).metadata.SameBut ["resourceVersion", "generation", "uid"]
    (toJson object).metadata
  resourceVersion : (toJson stored).metadata.get? "resourceVersion" = some (.str (toString number))
  generation : (toJson stored).metadata.get? "generation" = some (.int 1)
  uid : (toJson stored).metadata.get? "uid" =
    ((toJson object).metadata.get? "uid").or (some (.str (Cluster.uid number)))

structure ReplacedBy (kind : Kind) (number : UInt64) (existing object stored : kind.Object) :
    Prop where
  rest : (toJson stored).SameBut ["metadata", "status"] (toJson object)
  status : (toJson stored).get? "status" = (toJson existing).get? "status"
  metadata : (toJson stored).metadata.SameBut ["resourceVersion", "generation", "uid"]
    (toJson object).metadata
  resourceVersion : (toJson stored).metadata.get? "resourceVersion" = some (.str (toString number))
  /-- An object without a generation counts as the first. -/
  generation :
    let generation := (kind.metadata existing).generation.getD 1
    (toJson stored).metadata.get? "generation" = some (toJson (
      if kind.specJson? existing = kind.specJson? object then generation else generation + 1))
  uid : (toJson stored).metadata.get? "uid" =
    ((toJson existing).metadata.get? "uid").or ((toJson object).metadata.get? "uid")

structure RestatedBy (kind : Kind) (number : UInt64) (existing object stored : kind.Object) :
    Prop where
  rest : (toJson stored).SameBut ["metadata", "status"] (toJson existing)
  status : (toJson stored).get? "status" = (toJson object).get? "status"
  metadata : (toJson stored).metadata.SameBut ["resourceVersion"] (toJson existing).metadata
  resourceVersion : (toJson stored).metadata.get? "resourceVersion" = some (.str (toString number))

/-- What a write of an object makes of what is held under its key, by the documents. -/
inductive StoredFrom (kind : Kind) (number : UInt64) (object : kind.Object) :
    Verb → Option kind.Object → kind.Object → Prop
  | create {stored : kind.Object} (made : kind.CreatedFrom number object stored) :
    StoredFrom kind number object .create none stored
  | replace {existing stored : kind.Object}
    (current : Cluster.isCurrent kind existing object = true)
    (made : kind.ReplacedBy number existing object stored) :
    StoredFrom kind number object .replace (some existing) stored
  | replaceStatus {existing stored : kind.Object}
    (current : Cluster.isCurrent kind existing object = true)
    (made : kind.RestatedBy number existing object stored) :
    StoredFrom kind number object .replaceStatus (some existing) stored

end Kind

namespace Cluster

variable {kind : Kind} {object existing : kind.Object}

theorem createdFrom_created (cluster : Cluster) (object : kind.Object) :
    kind.CreatedFrom cluster.nextVersion object (cluster.created kind object) := by
  have metadata : (toJson (cluster.created kind object)).metadata = toJson _ :=
    (Kind.metadata_toJson kind _).trans (congrArg toJson (Kind.metadata_withMetadata ..))
  have rest : (toJson (cluster.created kind object)).SameBut ["metadata"]
      (toJson (kind.withoutStatus object)) := Kind.sameBut_withMetadata kind _ _
  constructor
  · exact (rest.weaken (by simp)).trans ((Kind.sameBut_withoutStatus kind object).weaken (by simp))
  · rw [rest "status" (by simp), Kind.get?_status_withoutStatus]
  · rw [metadata, Kind.metadata_toJson]
    exact ObjectMeta.sameBut_served _ _ _ _
  · rw [metadata, ObjectMeta.get?_resourceVersion]
    rfl
  · rw [metadata, ObjectMeta.get?_generation]
    rfl
  · rw [metadata, ObjectMeta.get?_uid, Kind.metadata_toJson, ObjectMeta.get?_uid]
    cases (kind.metadata object).uid <;> rfl

theorem replacedBy_replaced (cluster : Cluster) (asked : kind.SpecReadable object)
    (stored : kind.SpecReadable existing) :
    kind.ReplacedBy cluster.nextVersion existing object
      (cluster.replaced kind existing object) := by
  have metadata : (toJson (cluster.replaced kind existing object)).metadata = toJson _ :=
    (Kind.metadata_toJson kind _).trans (congrArg toJson (Kind.metadata_withMetadata ..))
  have rest : (toJson (cluster.replaced kind existing object)).SameBut ["metadata"]
      (toJson (kind.withStatusOf object existing)) := Kind.sameBut_withMetadata kind _ _
  constructor
  · exact (rest.weaken (by simp)).trans
      ((Kind.sameBut_withStatusOf kind object existing).weaken (by simp))
  · rw [rest "status" (by simp), Kind.get?_status_withStatusOf]
  · rw [metadata, Kind.metadata_toJson]
    exact ObjectMeta.sameBut_served _ _ _ _
  · rw [metadata, ObjectMeta.get?_resourceVersion]
    rfl
  · rw [metadata, ObjectMeta.get?_generation]
    simp only [Kind.specJson?_eq_iff stored asked]
    rfl
  · rw [metadata, ObjectMeta.get?_uid, Kind.metadata_toJson, ObjectMeta.get?_uid,
      Kind.metadata_toJson, ObjectMeta.get?_uid]
    cases (kind.metadata existing).uid <;> rfl

theorem restatedBy_restated (cluster : Cluster) (existing object : kind.Object) :
    kind.RestatedBy cluster.nextVersion existing object
      (cluster.restated kind existing object) := by
  have metadata : (toJson (cluster.restated kind existing object)).metadata = toJson _ :=
    (Kind.metadata_toJson kind _).trans (congrArg toJson (Kind.metadata_withMetadata ..))
  have rest : (toJson (cluster.restated kind existing object)).SameBut ["metadata"]
      (toJson (kind.withStatusOf existing (kind.recognized object))) :=
    Kind.sameBut_withMetadata kind _ _
  constructor
  · exact (rest.weaken (by simp)).trans ((Kind.sameBut_withStatusOf kind _ _).weaken (by simp))
  · rw [rest "status" (by simp), Kind.get?_status_withStatusOf, Kind.toJson_recognized]
  · rw [metadata, Kind.metadata_toJson]
    exact ObjectMeta.sameBut_resourceVersion _ _
  · rw [metadata, ObjectMeta.get?_resourceVersion]
    rfl

variable {cluster : Cluster} {verb : Verb} {kind : Kind} {key : ObjectKey}
  {object stored : kind.Object} {held : Option kind.Object}

theorem storedFrom_of_makes (makes : cluster.Makes kind object verb held stored)
    (asked : kind.SpecReadable object)
    (told : ∀ existing, held = some existing → kind.SpecReadable existing) :
    kind.StoredFrom cluster.nextVersion object verb held stored := by
  cases makes with
  | create => exact .create (cluster.createdFrom_created object)
  | replace current =>
    exact .replace current (cluster.replacedBy_replaced asked (told _ rfl))
  | replaceStatus current =>
    exact .replaceStatus current (cluster.restatedBy_restated _ object)

theorem makes_of_storedFrom {number : UInt64}
    (made : kind.StoredFrom number object verb held stored) :
    ∃ made, cluster.Makes kind object verb held made := by
  cases made with
  | create => exact ⟨_, .create⟩
  | replace current => exact ⟨_, .replace current⟩
  | replaceStatus current => exact ⟨_, .replaceStatus current⟩

theorem Makes.readable (makes : cluster.Makes kind object verb held stored)
    (readable : kind.Readable object)
    (told : ∀ existing, held = some existing → kind.Readable existing) :
    kind.Readable stored := by
  cases makes with
  | create =>
    exact readable.withoutStatus.withMetadata { readable.metadata with }
  | replace =>
    exact (readable.withStatusOf (told _ rfl)).withMetadata { readable.metadata with }
  | replaceStatus =>
    exact ((told _ rfl).withStatusOf readable.recognized).withMetadata { (told _ rfl).metadata with }

def Readable (cluster : Cluster) : Prop :=
  ∀ kind key object, cluster.find? kind key = some object → kind.Readable object

theorem Readable.settled {after : Cluster} (readable : cluster.Readable)
    (settles : cluster.Settles verb kind object (.ok (stored, after)))
    (told : kind.Readable object) : after.Readable := by
  obtain ⟨-, key, -, makes, rfl⟩ := settles
  intro other place held found
  rcases find?_write_cases cluster kind key stored found with ⟨rfl, rfl, rfl⟩ | found
  · exact (makes.readable told (readable kind key)).recognized
  · exact readable other place held found

theorem Readable.run {α : Type} {circumstances : Circumstances} {start final : Cluster}
    {program : Program α} {trace : List (Exchange Cluster)} {value : α}
    (readable : start.Readable)
    (run : program.Runs (closedWorld circumstances) start trace value final)
    (told : ∀ exchange ∈ trace, ∀ kind object, exchange.call.Puts kind object →
      kind.Readable object) : final.Readable := by
  refine run_keeps Readable (fun _ c => ∀ kind object, c.Puts kind object → kind.Readable object)
    (fun told answered readable => ?_) readable run told
  exact keeps_of_answers readable (fun puts settles => readable.settled settles (told _ _ puts))
    answered

end Cluster

end AutoscalerOperator
