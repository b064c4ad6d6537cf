import AutoscalerOperator.Proofs.Status.Owners

namespace AutoscalerOperator

open Kubernetes

namespace Merged

variable {α β : Type} {merge : β → α → Merged α} {steps : List β}

theorem Honest.idle (honest : Honest merge) {step : β} {value : α}
    (quiet : (merge step value).changed = false) : merge step value = ⟨value, false⟩ :=
  calc merge step value
    _ = ⟨(merge step value).value, (merge step value).changed⟩ := rfl
    _ = ⟨value, false⟩ := by rw [honest step value quiet, quiet]

theorem run_unchanged_iff (honest : Honest merge) (value : α) :
    (run merge steps ⟨value, false⟩).changed = false ↔
      ∀ step ∈ steps, (merge step value).changed = false := by
  constructor
  · intro unchanged
    induction steps with
    | nil => exact List.forall_mem_nil _
    | cons step rest ih =>
      have first : (mk value false).andThen (merge step) = merge step value := by
        simp [andThen]
      rw [run, List.foldl_cons, first] at unchanged
      have quiet := (run_of_unchanged honest unchanged).2
      rw [honest.idle quiet] at unchanged
      exact List.forall_mem_cons.mpr ⟨quiet, ih unchanged⟩
  · intro quiet
    rw [run, foldl_unchanged merge fun step member => honest.idle (quiet step member)]

end Merged

/-- Whether references to one owner all say the same. -/
def OwnersAgree (owners : List OwnerReference) : Prop :=
  ∀ first ∈ owners, ∀ second ∈ owners, first.uid = second.uid → semanticEq first second = true

section

variable {owners steps : List OwnerReference} {r : OwnerReference}

theorem putOwnerReference_unchanged_iff :
    (putOwnerReference r owners).changed = false ↔
      ∃ first, owners.find? (·.uid = r.uid) = some first ∧ semanticEq first r = true := by
  induction owners with
  | nil => simp [putOwnerReference]
  | cons head rest ih =>
    by_cases here : head.uid = r.uid
    · simp [putOwnerReference, here, Merged.map, Merged.changed_adopt]
    · simp [putOwnerReference, here, Merged.map, ih]

theorem DistinctOwners.agree (distinct : DistinctOwners owners) : OwnersAgree owners := by
  intro first listed second also same
  rw [distinct.eq listed also same]
  exact semanticEq_refl second

theorem owners_unchanged_iff :
    (∀ r ∈ owners, (putOwnerReference r owners).changed = false) ↔ OwnersAgree owners := by
  constructor
  · intro unchanged first listed second also same
    obtain ⟨found, found?, said⟩ := putOwnerReference_unchanged_iff.mp (unchanged first listed)
    obtain ⟨found', found?', said'⟩ := putOwnerReference_unchanged_iff.mp (unchanged second also)
    rw [same] at found?
    cases found?.symm.trans found?'
    exact semanticEq_trans (semanticEq_comm first found ▸ said) said'
  · intro agree r listed
    obtain ⟨first, found⟩ : ∃ first, owners.find? (·.uid = r.uid) = some first :=
      Option.isSome_iff_exists.mp (List.find?_isSome.mpr ⟨r, listed, by simp⟩)
    refine putOwnerReference_unchanged_iff.mpr ⟨first, found, ?_⟩
    exact agree first (List.mem_of_find?_eq_some found) r listed
      (by simpa using List.find?_some found)

theorem uids_putOwnerReference (listed : ∃ e ∈ owners, e.uid = r.uid) :
    (putOwnerReference r owners).value.map (·.uid) = owners.map (·.uid) := by
  induction owners with
  | nil => simp at listed
  | cons head rest ih =>
    by_cases here : head.uid = r.uid
    · have uid : (Merged.adopt head r).value.uid = head.uid :=
        (adopted_iff.mpr rfl : Adopted head r (Merged.adopt head r).value).uid_eq here.symm
      rw [putOwnerReference_of_eq here, List.map_cons, List.map_cons, uid]
    · obtain ⟨e, member, same⟩ := listed
      rcases List.mem_cons.mp member with rfl | member
      · exact absurd same here
      · rw [putOwnerReference_of_ne here, List.map_cons, List.map_cons, ih ⟨e, member, same⟩]

theorem uids_run {start : Merged (List OwnerReference)}
    (listed : ∀ r ∈ steps, r.uid ∈ start.value.map (·.uid)) :
    (Merged.run putOwnerReference steps start).value.map (·.uid) = start.value.map (·.uid) := by
  induction steps generalizing start with
  | nil => rfl
  | cons r rest ih =>
    obtain ⟨own, others⟩ := List.forall_mem_cons.mp listed
    have uids : (start.andThen (putOwnerReference r)).value.map (·.uid) =
        start.value.map (·.uid) := uids_putOwnerReference (List.mem_map.mp own)
    exact (ih (uids ▸ others)).trans uids

end

/-- What comes of metadata that are merged into themselves. Only the references to one owner that do
    not agree make a difference. -/
structure MergedIntoItself (m : ObjectMeta) (modified : Bool) (merged : Merged ObjectMeta) :
    Prop where
  changed : merged.changed = true ↔
    modified = true ∨ ¬OwnersAgree (m.ownerReferences.getD [])
  kept : OwnersAgree (m.ownerReferences.getD []) → merged.value = m
  rest : merged.value = { m with ownerReferences := merged.value.ownerReferences }
  uids : (merged.value.ownerReferences.getD []).map (·.uid) =
    (m.ownerReferences.getD []).map (·.uid)

section

variable (owners : Option (List OwnerReference))

theorem mergeOwnerReferences_own_unchanged_iff :
    (mergeOwnerReferences owners (owners.getD [])).changed = false ↔
      OwnersAgree (owners.getD []) := by
  by_cases empty : owners.getD [] = []
  · rw [empty]
    exact iff_of_true rfl (List.forall_mem_nil _)
  · rw [mergeOwnerReferences_eq owners empty, ← owners_unchanged_iff]
    exact Merged.run_unchanged_iff honest_putOwnerReference _

theorem value_mergeOwnerReferences_own (agree : OwnersAgree (owners.getD [])) :
    (mergeOwnerReferences owners (owners.getD [])).value = owners := by
  have unchanged := (mergeOwnerReferences_own_unchanged_iff owners).mpr agree
  by_cases empty : owners.getD [] = []
  · rw [empty]
    rfl
  · rw [mergeOwnerReferences_eq owners empty] at unchanged ⊢
    have same := (Merged.run_of_unchanged honest_putOwnerReference unchanged).1
    cases owners with
    | none => exact absurd rfl empty
    | some owners => exact congrArg some same

theorem uids_mergeOwnerReferences_own :
    ((mergeOwnerReferences owners (owners.getD [])).value.getD []).map (·.uid) =
      (owners.getD []).map (·.uid) := by
  by_cases empty : owners.getD [] = []
  · rw [empty]
    exact congrArg (List.map _) empty
  · rw [mergeOwnerReferences_eq owners empty]
    exact uids_run fun r member => List.mem_map_of_mem member

end

theorem mergeMetadata_own (m : ObjectMeta) : mergeMetadata m m =
    (mergeOwnerReferences m.ownerReferences (m.ownerReferences.getD [])).map fun owners =>
      { m with ownerReferences := owners } := by
  simp [mergeMetadata, Merged.map]

theorem mergedIntoItself_mergeMetadata (m : ObjectMeta) (modified : Bool) :
    MergedIntoItself m modified ((Merged.mk m modified).andThen (mergeMetadata · m)) := by
  have unchanged := mergeOwnerReferences_own_unchanged_iff m.ownerReferences
  simp only [mergeMetadata_own, Merged.andThen, Merged.map]
  refine ⟨?_, fun agree => ?_, rfl, uids_mergeOwnerReferences_own _⟩
  · rw [Bool.or_eq_true_iff, ← unchanged, Bool.not_eq_false]
  · rw [value_mergeOwnerReferences_own _ agree]

theorem mergeMetadata_unchanged {m : ObjectMeta}
    (distinct : DistinctOwners (m.ownerReferences.getD [])) :
    (mergeMetadata m m).changed = false := by
  rw [mergeMetadata_own]
  exact (mergeOwnerReferences_own_unchanged_iff _).mpr distinct.agree

def rivals : List OwnerReference :=
  [{ apiVersion := "v1", kind := "Namespace", name := "a", uid := "1" },
    { apiVersion := "v1", kind := "Namespace", name := "b", uid := "1" }]

theorem rivals_disagree : ¬OwnersAgree rivals := by
  intro agree
  have same := agree _ (.head _) _ (.tail _ (.head _)) rfl
  exact absurd same (by decide)

/-- It is not so that metadata always stay as they are when they are merged into themselves. -/
theorem rivals_rewritten :
    ¬∀ (m : ObjectMeta) (modified : Bool),
      (Merged.mk m modified).andThen (mergeMetadata · m) = ⟨m, modified⟩ := by
  intro kept
  have changed := congrArg Merged.changed (kept { ownerReferences := rivals } false)
  exact absurd changed (by decide)

end AutoscalerOperator
