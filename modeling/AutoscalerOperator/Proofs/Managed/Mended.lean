import AutoscalerOperator.Proofs.Managed.Drift

namespace AutoscalerOperator

open Kubernetes

/-- Whether annotations are the earlier ones with these stamps: each stamp is there, and under every
    other key is what was there before, if anything. -/
structure Restamped (stamps : List (String × String)) (before : Option Labels) (after : Labels) :
    Prop where
  stamped : ∀ key value, (key, value) ∈ stamps → after.get? key = some value
  others : ∀ key, key ∉ stamps.map (·.1) → after.get? key = before.bind (·.get? key)

/-- Whether a field was left as it was observed, if it says what is desired, and else made what is
    desired. -/
structure Adopted {α : Type} [ToJson α] (observed desired after : α) : Prop where
  kept : semanticEq observed desired = true → after = observed
  replaced : semanticEq observed desired = false → after = desired

theorem Restamped.unique {stamps : List (String × String)} {before : Option Labels}
    {left right : Labels} (first : Restamped stamps before left)
    (second : Restamped stamps before right) : left = right := by
  apply SortedMap.ext
  intro key
  by_cases own : key ∈ stamps.map (·.1)
  · obtain ⟨⟨_, value⟩, member, rfl⟩ := List.mem_map.mp own
    rw [first.stamped _ value member, second.stamped _ value member]
  · rw [first.others key own, second.others key own]

theorem restamped_insertAll {stamps : List (String × String)} (before : Option Labels)
    (distinct : (stamps.map (·.1)).Nodup) :
    Restamped stamps before ((before.getD .empty).insertAll stamps) where
  stamped _ _ member := SortedMap.get?_insertAll_of_mem _ distinct member
  others key other := by
    rw [SortedMap.get?_insertAll_of_not_mem _ other]
    cases before <;> rfl

theorem Restamped.withStamps_eq {stamps : List (String × String)} {before : Option Labels}
    {after : Labels} (restamped : Restamped stamps before after)
    (distinct : (stamps.map (·.1)).Nodup) : withStamps before stamps = some after :=
  congrArg some ((restamped_insertAll before distinct).unique restamped)

theorem adopted_iff {α : Type} [ToJson α] {observed desired after : α} :
    Adopted observed desired after ↔ (Merged.adopt observed desired).value = after := by
  unfold Merged.adopt
  cases same : semanticEq observed desired with
  | true =>
    constructor
    · intro adopted
      exact (adopted.kept same).symm
    · rintro rfl
      exact ⟨fun _ => rfl, fun differs => by cases same.symm.trans differs⟩
  | false =>
    constructor
    · intro adopted
      exact (adopted.replaced same).symm
    · rintro rfl
      exact ⟨fun agrees => (by cases same.symm.trans agrees), fun _ => rfl⟩

namespace ManagedKind

/-- How an object may come out of being brought in line with a desired one. What is written here is
    all that is written; what it stands in is made empty where it is missing. -/
inductive Mended : (managed : ManagedKind) → (current desired after : managed.Object) → Prop
  | deployment {current desired : Deployment} {annotations podAnnotations : Labels}
    {pods : Option PodSpec}
    (stamped : Restamped (ManagedKind.deployment.stamps desired.metadata.release)
      current.metadata.annotations annotations)
    (podsStamped : Restamped (ManagedKind.deployment.stamps desired.metadata.release)
      current.podAnnotations podAnnotations)
    (adopted : Adopted current.asked.template.spec desired.asked.template.spec pods) :
    Mended .deployment current desired { current with
      metadata := { current.metadata with annotations := some annotations }
      spec := some { current.asked with
        replicas := desired.asked.replicas
        template := {
          metadata := some { current.asked.template.metadata.getD {} with
            annotations := some podAnnotations }
          spec := pods } } }
  | service {current desired : Service} {annotations : Labels} {ports : Option (List ServicePort)}
    {selector : Option Labels}
    (stamped : Restamped (ManagedKind.service.stamps desired.metadata.release)
      current.metadata.annotations annotations)
    (portsAdopted : Adopted current.asked.ports desired.asked.ports ports)
    (selectorAdopted : Adopted current.asked.selector desired.asked.selector selector) :
    Mended .service current desired { current with
      metadata := { current.metadata with annotations := some annotations }
      spec := some { current.asked with ports, selector } }
  | configMap {current desired : ConfigMap} {annotations : Labels}
    (stamped : Restamped (ManagedKind.configMap.stamps desired.metadata.release)
      current.metadata.annotations annotations) :
    Mended .configMap current desired { current with
      metadata := { current.metadata with annotations := some annotations } }

theorem convergeDeployment_eq (current desired : Deployment) :
    (convergeDeployment current desired).value = { current with
      metadata := { current.metadata with
        annotations := withStamps current.metadata.annotations
          (ManagedKind.deployment.stamps desired.metadata.release) }
      spec := some { current.asked with
        replicas := desired.asked.replicas
        template := {
          metadata := some { current.asked.template.metadata.getD {} with
            annotations := withStamps current.podAnnotations
              (ManagedKind.deployment.stamps desired.metadata.release) }
          spec := (Merged.adopt current.asked.template.spec desired.asked.template.spec).value } } } := by
  rw [← podAnnotations_convergeDeployment]
  rfl

theorem mended_convergeDeployment (current desired : Deployment) :
    Mended .deployment current desired (convergeDeployment current desired).value := by
  have distinct := ManagedKind.deployment.nodup_stamps desired.metadata.release
  rw [convergeDeployment_eq]
  exact .deployment (restamped_insertAll _ distinct) (restamped_insertAll _ distinct)
    (adopted_iff.mpr rfl)

theorem mended_convergeService (current desired : Service) :
    Mended .service current desired (convergeService current desired).value :=
  .service (restamped_insertAll _ (ManagedKind.service.nodup_stamps desired.metadata.release))
    (adopted_iff.mpr rfl) (adopted_iff.mpr rfl)

theorem mended_convergeConfigMap (current desired : ConfigMap) :
    Mended .configMap current desired (convergeConfigMap current desired).value :=
  .configMap (restamped_insertAll _ (ManagedKind.configMap.nodup_stamps desired.metadata.release))

/-- What is brought in line is what it was but for the stamps and for those fields that the operator
    owns and that did not say what is desired. This tells exactly how it comes out. -/
theorem converge_mends (managed : ManagedKind) (current desired after : managed.Object) :
    (managed.converge current desired).value = after ↔ managed.Mended current desired after := by
  constructor
  · rintro rfl
    cases managed with
    | deployment => exact mended_convergeDeployment current desired
    | service => exact mended_convergeService current desired
    | configMap => exact mended_convergeConfigMap current desired
  · intro mended
    cases mended with
    | @deployment current desired _ _ _ stamped podsStamped adopted =>
      have distinct := ManagedKind.deployment.nodup_stamps desired.metadata.release
      change (convergeDeployment current desired).value = _
      rw [convergeDeployment_eq, stamped.withStamps_eq distinct, podsStamped.withStamps_eq distinct,
        adopted_iff.mp adopted]
    | @service current desired _ _ _ stamped portsAdopted selectorAdopted =>
      have distinct := ManagedKind.service.nodup_stamps desired.metadata.release
      have annotations := stamped.withStamps_eq distinct
      rw [← adopted_iff.mp portsAdopted, ← adopted_iff.mp selectorAdopted, ← annotations]
      rfl
    | @configMap current desired _ stamped =>
      have distinct := ManagedKind.configMap.nodup_stamps desired.metadata.release
      rw [← stamped.withStamps_eq distinct]
      rfl

end ManagedKind

end AutoscalerOperator
