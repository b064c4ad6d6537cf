import AutoscalerOperator.Proofs.Managed.Mended
import AutoscalerOperator.Proofs.Status.Merging
import Mathlib.Data.List.Nodup

namespace AutoscalerOperator

open Kubernetes

namespace Merged

variable {α β : Type} {merge : β → α → Merged α} {steps : List β}

def run (merge : β → α → Merged α) (steps : List β) (start : Merged α) : Merged α :=
  steps.foldl (fun merged step => merged.andThen (merge step)) start

/-- Whether merges that are told to change nothing do change nothing. -/
def Honest (merge : β → α → Merged α) : Prop :=
  ∀ step value, (merge step value).changed = false → (merge step value).value = value

theorem run_of_unchanged (honest : Honest merge) {start : Merged α}
    (unchanged : (run merge steps start).changed = false) :
    (run merge steps start).value = start.value ∧ start.changed = false := by
  induction steps generalizing start with
  | nil => exact ⟨rfl, unchanged⟩
  | cons step rest ih =>
    obtain ⟨same, quiet⟩ := ih unchanged
    obtain ⟨before, here⟩ := Bool.or_eq_false_iff.mp quiet
    exact ⟨same.trans (honest step start.value here), before⟩

/-- A run of merges that settles, so that none of them would change its outcome, has changed
    something just if it does not end where it started. -/
theorem changed_run_iff (honest : Honest merge) {start : α}
    (idle : ∀ step ∈ steps, merge step (run merge steps ⟨start, false⟩).value =
      ⟨(run merge steps ⟨start, false⟩).value, false⟩) :
    (run merge steps ⟨start, false⟩).changed = true ↔
      (run merge steps ⟨start, false⟩).value ≠ start := by
  constructor
  · intro changed same
    rw [same] at idle
    rw [run, foldl_unchanged merge idle] at changed
    cases changed
  · intro different
    cases changed : (run merge steps ⟨start, false⟩).changed with
    | true => rfl
    | false => exact absurd (run_of_unchanged honest changed).1 different

end Merged

/-- How references come out that stand after `earlier` ones once required ones are merged into them:
    the first of a required uid is made to say what is required, the others stay, and what is
    required of no uid that was there follows in its order. -/
inductive OwnersMerged (required : List OwnerReference) :
    (earlier existing after : List OwnerReference) → Prop
  | new {earlier : List OwnerReference} :
    OwnersMerged required earlier [] (required.filter fun r => ∀ e ∈ earlier, e.uid ≠ r.uid)
  | met {earlier existing after : List OwnerReference} {owner r owner' : OwnerReference}
    (first : ∀ e ∈ earlier, e.uid ≠ owner.uid) (listed : r ∈ required) (same : r.uid = owner.uid)
    (adopted : Adopted owner r owner')
    (rest : OwnersMerged required (owner :: earlier) existing after) :
    OwnersMerged required earlier (owner :: existing) (owner' :: after)
  | other {earlier existing after : List OwnerReference} {owner : OwnerReference}
    (unmet : (∃ e ∈ earlier, e.uid = owner.uid) ∨ ∀ r ∈ required, r.uid ≠ owner.uid)
    (rest : OwnersMerged required (owner :: earlier) existing after) :
    OwnersMerged required earlier (owner :: existing) (owner :: after)

section

variable {required earlier existing after owners : List OwnerReference}
  {owner owner' r : OwnerReference}

theorem Adopted.uid_eq (adopted : Adopted owner r owner') (same : r.uid = owner.uid) :
    owner'.uid = owner.uid := by
  cases said : semanticEq owner r with
  | true => rw [adopted.kept said]
  | false => rw [adopted.replaced said, same]

theorem DistinctOwners.eq (distinct : DistinctOwners required) {first second : OwnerReference}
    (listed : first ∈ required) (also : second ∈ required) (same : first.uid = second.uid) :
    first = second :=
  List.inj_on_of_nodup_map (List.pairwise_map.mpr distinct) listed also same

theorem honest_putOwnerReference : Merged.Honest putOwnerReference := by
  intro r owners unchanged
  induction owners with
  | nil => cases unchanged
  | cons head rest ih =>
    unfold putOwnerReference at unchanged ⊢
    split
    · rename_i here
      rw [if_pos here] at unchanged
      exact congrArg (· :: rest) (Merged.adopt_of_unchanged unchanged)
    · rename_i elsewhere
      rw [if_neg elsewhere] at unchanged
      exact congrArg (head :: ·) (ih unchanged)

theorem putOwnerReference_of_eq (here : owner.uid = r.uid) (rest : List OwnerReference) :
    (putOwnerReference r (owner :: rest)).value = (Merged.adopt owner r).value :: rest := by
  rw [putOwnerReference, if_pos here]
  rfl

theorem putOwnerReference_of_ne (elsewhere : owner.uid ≠ r.uid) (rest : List OwnerReference) :
    (putOwnerReference r (owner :: rest)).value = owner :: (putOwnerReference r rest).value := by
  rw [putOwnerReference, if_neg elsewhere]
  rfl

theorem putOwnerReference_of_fresh (fresh : ∀ e ∈ owners, e.uid ≠ r.uid) :
    (putOwnerReference r owners).value = owners ++ [r] := by
  induction owners with
  | nil => rfl
  | cons head rest ih =>
    rw [putOwnerReference_of_ne (fresh head List.mem_cons_self),
      ih fun e member => fresh e (List.mem_cons_of_mem _ member), List.cons_append]

theorem OwnersMerged.start (earlier existing : List OwnerReference) :
    OwnersMerged [] earlier existing existing := by
  induction existing generalizing earlier with
  | nil => exact .new
  | cons owner rest ih => exact .other (.inr nofun) (ih _)

theorem OwnersMerged.passed (merged : OwnersMerged required earlier existing after)
    (seen : ∃ e ∈ earlier, e.uid = r.uid) :
    OwnersMerged (required ++ [r]) earlier existing after := by
  induction merged with
  | @new earlier =>
    have refused : ¬∀ e ∈ earlier, e.uid ≠ r.uid := fun fresh => by
      obtain ⟨e, member, same⟩ := seen
      exact fresh e member same
    have left : (required ++ [r]).filter (fun r => ∀ e ∈ earlier, e.uid ≠ r.uid) =
        required.filter fun r => ∀ e ∈ earlier, e.uid ≠ r.uid := by
      simp [refused]
    exact left ▸ .new
  | met first listed same adopted rest ih =>
    obtain ⟨e, member, alike⟩ := seen
    exact .met first (List.mem_append_left _ listed) same adopted
      (ih ⟨e, List.mem_cons_of_mem _ member, alike⟩)
  | @other earlier existing after owner unmet rest ih =>
    obtain ⟨e, member, alike⟩ := seen
    refine .other ?_ (ih ⟨e, List.mem_cons_of_mem _ member, alike⟩)
    rcases unmet with before | unlisted
    · exact .inl before
    · by_cases here : r.uid = owner.uid
      · exact .inl ⟨e, member, alike.trans here⟩
      · refine .inr fun other listed => ?_
        rcases List.mem_append.mp listed with early | last
        · exact unlisted other early
        · rw [List.mem_singleton.mp last]
          exact here

theorem OwnersMerged.put (merged : OwnersMerged required earlier existing after)
    (fresh : ∀ d ∈ required, d.uid ≠ r.uid) (unseen : ∀ e ∈ earlier, e.uid ≠ r.uid) :
    OwnersMerged (required ++ [r]) earlier existing (putOwnerReference r after).value := by
  induction merged with
  | @new earlier =>
    have last : (required ++ [r]).filter (fun r => ∀ e ∈ earlier, e.uid ≠ r.uid) =
        (required.filter fun r => ∀ e ∈ earlier, e.uid ≠ r.uid) ++ [r] := by
      have taken : ([r].filter fun r => ∀ e ∈ earlier, e.uid ≠ r.uid) = [r] := by
        simpa using unseen
      rw [List.filter_append, taken]
    rw [putOwnerReference_of_fresh fun e member => fresh e (List.mem_of_mem_filter member), ← last]
    exact .new
  | @met earlier existing after owner r' owner' first listed same adopted rest ih =>
    have apart : owner.uid ≠ r.uid := same ▸ fresh r' listed
    rw [putOwnerReference_of_ne (adopted.uid_eq same ▸ apart)]
    exact .met first (List.mem_append_left _ listed) same adopted
      (ih (List.forall_mem_cons.mpr ⟨apart, unseen⟩))
  | @other earlier existing after owner unmet rest ih =>
    by_cases here : owner.uid = r.uid
    · rw [putOwnerReference_of_eq here]
      have listed : r ∈ required ++ [r] := List.mem_append_right _ List.mem_cons_self
      exact .met (fun e member => here ▸ unseen e member) listed here.symm (adopted_iff.mpr rfl)
        (rest.passed ⟨owner, List.mem_cons_self, here⟩)
    · rw [putOwnerReference_of_ne here]
      refine .other ?_ (ih (List.forall_mem_cons.mpr ⟨here, unseen⟩))
      refine unmet.imp_right fun unlisted other listed => ?_
      rcases List.mem_append.mp listed with early | last
      · exact unlisted other early
      · rw [List.mem_singleton.mp last]
        exact Ne.symm here

theorem OwnersMerged.run {done rest : List OwnerReference} {start : Merged (List OwnerReference)}
    (distinct : DistinctOwners (done ++ rest))
    (merged : OwnersMerged done [] existing start.value) :
    OwnersMerged (done ++ rest) [] existing (Merged.run putOwnerReference rest start).value := by
  induction rest generalizing done start with
  | nil => rwa [List.append_nil]
  | cons r rest ih =>
    have apart : done ++ r :: rest = (done ++ [r]) ++ rest := by simp
    have fresh : ∀ d ∈ done, d.uid ≠ r.uid := fun d member =>
      (List.pairwise_append.mp distinct).2.2 d member r List.mem_cons_self
    rw [apart] at distinct ⊢
    exact ih distinct (merged.put fresh (List.forall_mem_nil _))

theorem OwnersMerged.idle (merged : OwnersMerged required earlier existing after)
    (distinct : DistinctOwners required) (listed : r ∈ required)
    (unseen : ∀ e ∈ earlier, e.uid ≠ r.uid) : putOwnerReference r after = ⟨after, false⟩ := by
  induction merged with
  | new =>
    refine putOwnerReference_of_mem (distinct.sublist List.filter_sublist) ?_
    exact List.mem_filter.mpr ⟨listed, decide_eq_true unseen⟩
  | @met earlier existing after owner r' owner' first listed' same adopted rest ih =>
    by_cases here : owner.uid = r.uid
    · obtain rfl := distinct.eq listed listed' (here.symm.trans same.symm)
      rw [putOwnerReference, if_pos ((adopted.uid_eq same).trans here), ← adopted_iff.mp adopted,
        Merged.adopt_adopt]
      rfl
    · rw [putOwnerReference, if_neg (adopted.uid_eq same ▸ here),
        ih (List.forall_mem_cons.mpr ⟨here, unseen⟩)]
      rfl
  | @other earlier existing after owner unmet rest ih =>
    have elsewhere : owner.uid ≠ r.uid := by
      intro here
      rcases unmet with ⟨e, member, same⟩ | unlisted
      · exact unseen e member (same.trans here)
      · exact unlisted r listed here.symm
    rw [putOwnerReference, if_neg elsewhere, ih (List.forall_mem_cons.mpr ⟨elsewhere, unseen⟩)]
    rfl

end

section

variable (existing : Option (List OwnerReference)) {required : List OwnerReference}

theorem mergeOwnerReferences_eq (filled : required ≠ []) :
    mergeOwnerReferences existing required =
      (Merged.run putOwnerReference required ⟨existing.getD [], false⟩).map some := by
  rw [mergeOwnerReferences, if_neg (by simpa using filled)]
  rfl

theorem isSome_mergeOwnerReferences (required : List OwnerReference) :
    (mergeOwnerReferences existing required).value.isSome ↔ existing.isSome ∨ required ≠ [] := by
  by_cases filled : required = [] <;> simp [mergeOwnerReferences, Merged.map, filled]

theorem ownersMerged_mergeOwnerReferences (distinct : DistinctOwners required) :
    OwnersMerged required [] (existing.getD [])
      ((mergeOwnerReferences existing required).value.getD []) := by
  cases required with
  | nil => exact .start [] _
  | cons r rest =>
    have start : OwnersMerged [] [] (existing.getD []) (Merged.mk (existing.getD []) false).value :=
      .start [] _
    rw [mergeOwnerReferences_eq existing (List.cons_ne_nil r rest)]
    exact start.run distinct

theorem changed_mergeOwnerReferences (distinct : DistinctOwners required) :
    (mergeOwnerReferences existing required).changed = true ↔
      (mergeOwnerReferences existing required).value.getD [] ≠ existing.getD [] := by
  have merged := ownersMerged_mergeOwnerReferences existing distinct
  cases required with
  | nil => simp [mergeOwnerReferences]
  | cons r rest =>
    rw [mergeOwnerReferences_eq existing (List.cons_ne_nil r rest)] at merged ⊢
    exact Merged.changed_run_iff honest_putOwnerReference fun r listed =>
      merged.idle distinct listed (List.forall_mem_nil _)

theorem mergeOwnerReferences_again (distinct : DistinctOwners required) :
    mergeOwnerReferences (mergeOwnerReferences existing required).value required =
      ⟨(mergeOwnerReferences existing required).value, false⟩ := by
  have merged := ownersMerged_mergeOwnerReferences existing distinct
  cases required with
  | nil => rfl
  | cons r rest =>
    have filled := List.cons_ne_nil r rest
    have idle := Merged.foldl_unchanged putOwnerReference
      fun r listed => merged.idle distinct listed (List.forall_mem_nil _)
    rw [mergeOwnerReferences_eq (mergeOwnerReferences existing _).value filled, Merged.run, idle,
      mergeOwnerReferences_eq existing filled]
    rfl

end

end AutoscalerOperator
