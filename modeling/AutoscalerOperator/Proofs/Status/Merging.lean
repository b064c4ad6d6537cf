import AutoscalerOperator.ClusterOperator.Merge
import AutoscalerOperator.Proofs.Managed.Settled

namespace AutoscalerOperator

open Kubernetes

theorem Merged.foldl_unchanged {α β : Type} (merge : β → α → Merged α) {value : α}
    {steps : List β} (idle : ∀ step ∈ steps, merge step value = ⟨value, false⟩) :
    steps.foldl (fun (merged : Merged α) step => merged.andThen (merge step)) ⟨value, false⟩ =
      ⟨value, false⟩ := by
  induction steps with
  | nil => rfl
  | cons step rest ih =>
    have first : (Merged.mk value false).andThen (merge step) = ⟨value, false⟩ := by
      simp [Merged.andThen, idle step List.mem_cons_self]
    rw [List.foldl_cons, first]
    exact ih fun later member => idle later (List.mem_cons_of_mem _ member)

@[simp] theorem mergeText_self (text : Option String) : mergeText text text = ⟨text, false⟩ := by
  cases text <;> simp [mergeText]

@[simp] theorem mergeLabels_self (labels : Option Labels) :
    mergeLabels labels labels = ⟨labels, false⟩ := by
  cases labels with
  | none => rfl
  | some labels =>
    have idle : ∀ entry ∈ labels.entries, putLabel labels entry.1 entry.2 = ⟨labels, false⟩ := by
      rintro ⟨key, value⟩ member
      simp [putLabel, SortedMap.get?_of_mem member]
    have merged := Merged.foldl_unchanged
      (fun (entry : String × String) labels => putLabel labels entry.1 entry.2) idle
    simp only [mergeLabels, Option.getD_some]
    rw [merged]
    rfl

def DistinctOwners (owners : List OwnerReference) : Prop :=
  owners.Pairwise fun first second => first.uid ≠ second.uid

theorem putOwnerReference_of_mem {owners : List OwnerReference} {owner : OwnerReference}
    (distinct : DistinctOwners owners) (member : owner ∈ owners) :
    putOwnerReference owner owners = ⟨owners, false⟩ := by
  induction owners with
  | nil => cases member
  | cons head rest ih =>
    obtain ⟨others, distinct⟩ := List.pairwise_cons.mp distinct
    rcases List.mem_cons.mp member with rfl | member
    · simp [putOwnerReference, Merged.adopt_self, Merged.map]
    · simp [putOwnerReference, others owner member, ih distinct member, Merged.map]

theorem mergeMetadata_self (m : ObjectMeta) :
    (mergeMetadata m m).value.name = m.name ∧
      (mergeMetadata m m).value.namespaceName = m.namespaceName ∧
        (mergeMetadata m m).value.resourceVersion = m.resourceVersion := by
  simp [mergeMetadata]

end AutoscalerOperator
