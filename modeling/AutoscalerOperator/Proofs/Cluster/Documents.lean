import Mathlib.Data.List.Forall2
import AutoscalerOperator.Proofs.Cluster.Objects
import AutoscalerOperator.Proofs.Json.Normal

namespace AutoscalerOperator

open Kubernetes

namespace Json

def metadata (json : Json) : Json := (json.get? "metadata").getD .null

def SameBut (keys : List String) (left right : Json) : Prop :=
  ∀ key, key ∉ keys → left.get? key = right.get? key

variable {keys : List String} {left middle right : Json}

theorem SameBut.trans (first : left.SameBut keys middle) (second : middle.SameBut keys right) :
    left.SameBut keys right :=
  fun key apart => (first key apart).trans (second key apart)

theorem SameBut.weaken {fewer : List String} (same : left.SameBut fewer right)
    (more : fewer ⊆ keys) : left.SameBut keys right :=
  fun key apart => same key fun member => apart (more member)

theorem get?_record (key : String) (members : List (String × Option Json)) :
    (record members).get? key =
      members.findSome? fun (other, value) => if other = key then value else none :=
  get?_filterMap key members

theorem sameBut_record {left right : List (String × Option Json)}
    (alike : List.Forall₂ (fun a b => a.1 = b.1 ∧ (a.1 ∈ keys ∨ a.2 = b.2)) left right) :
    (record left).SameBut keys (record right) := by
  intro key apart
  rw [get?_record, get?_record]
  induction alike with
  | nil => rfl
  | @cons a b left right head _ ih =>
    obtain ⟨names, values⟩ := head
    rw [List.findSome?_cons, List.findSome?_cons, ih]
    by_cases here : a.1 = key
    · have same : a.2 = b.2 := values.resolve_left fun member => apart (here ▸ member)
      simp only [← names, same]
    · simp only [← names, here, if_false]

end Json

namespace Kubernetes.ObjectMeta

variable (m : ObjectMeta)

theorem get?_resourceVersion :
    (toJson m).get? "resourceVersion" = m.resourceVersion.map toJson := by
  refine (Json.get?_record _ _).trans ?_
  cases m.resourceVersion <;> simp

theorem get?_generation : (toJson m).get? "generation" = m.generation.map toJson := by
  refine (Json.get?_record _ _).trans ?_
  cases m.generation <;> simp

theorem get?_uid : (toJson m).get? "uid" = m.uid.map toJson := by
  refine (Json.get?_record _ _).trans ?_
  cases m.uid <;> simp

theorem sameBut_served (resourceVersion uid : Option String) (generation : Option Int64) :
    (toJson { m with resourceVersion, generation, uid }).SameBut
      ["resourceVersion", "generation", "uid"] (toJson m) :=
  Json.sameBut_record (by simp)

theorem sameBut_resourceVersion (resourceVersion : Option String) :
    (toJson { m with resourceVersion }).SameBut ["resourceVersion"] (toJson m) :=
  Json.sameBut_record (by simp)

end Kubernetes.ObjectMeta

namespace Kind

variable (kind : Kind) (object other : kind.Object) (m : ObjectMeta)

theorem get?_metadata :
    (toJson object).get? "metadata" = some (toJson (kind.metadata object)) := by
  cases kind <;> exact (Json.get?_record _ _).trans (by simp [metadata])

theorem metadata_toJson : (toJson object).metadata = toJson (kind.metadata object) := by
  rw [Json.metadata, get?_metadata, Option.getD_some]

theorem sameBut_withMetadata :
    (toJson (kind.withMetadata object m)).SameBut ["metadata"] (toJson object) := by
  cases kind <;> exact Json.sameBut_record (by simp [withMetadata])

theorem sameBut_withStatusOf :
    (toJson (kind.withStatusOf object other)).SameBut ["status"] (toJson object) := by
  cases kind <;> exact Json.sameBut_record (by simp [withStatusOf])

theorem sameBut_withoutStatus :
    (toJson (kind.withoutStatus object)).SameBut ["status"] (toJson object) := by
  cases kind <;> exact Json.sameBut_record (by simp [withoutStatus])

theorem get?_status_withoutStatus : (toJson (kind.withoutStatus object)).get? "status" = none := by
  cases kind <;> exact (Json.get?_record _ _).trans (by simp [withoutStatus])

theorem get?_status : (toJson object).get? "status" = kind.statusJson? object := by
  cases kind <;> refine (Json.get?_record _ _).trans ?_ <;> simp [statusJson?]

theorem get?_status_withStatusOf :
    (toJson (kind.withStatusOf object other)).get? "status" = (toJson other).get? "status" := by
  rw [get?_status, get?_status]
  cases kind <;> rfl

end Kind

end AutoscalerOperator
