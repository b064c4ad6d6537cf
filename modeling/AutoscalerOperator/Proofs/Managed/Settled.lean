import AutoscalerOperator.Managed.Converge
import AutoscalerOperator.Managed.Desired
import AutoscalerOperator.Proofs.Json.Normal
import AutoscalerOperator.Proofs.Managed.Stamps

namespace AutoscalerOperator

open Kubernetes

namespace Merged

variable {α : Type} [ToJson α]

theorem semanticEq_adopt (existing required : α) :
    semanticEq (adopt existing required).value required = true := by
  unfold adopt
  split
  · assumption
  · exact semanticEq_refl required

theorem semanticEq_adopts (left right required : α) :
    semanticEq (adopt left required).value (adopt right required).value = true := by
  have second := semanticEq_adopt right required
  rw [semanticEq_comm] at second
  exact semanticEq_trans (semanticEq_adopt left required) second

theorem changed_adopt (existing required : α) :
    (adopt existing required).changed = !semanticEq existing required := by
  unfold adopt
  cases semanticEq existing required <;> rfl

theorem adopt_unchanged {existing required : α} (same : semanticEq existing required = true) :
    (adopt existing required).changed = false := by
  rw [adopt, if_pos same]

theorem adopt_self (value : α) : adopt value value = ⟨value, false⟩ := by
  rw [adopt, if_pos (semanticEq_refl value)]

theorem adopt_adopt (existing required : α) :
    adopt (adopt existing required).value required =
      ⟨(adopt existing required).value, false⟩ := by
  by_cases same : semanticEq existing required = true
  · simp [adopt, same]
  · simp [adopt, same, semanticEq_refl]

theorem adopt_of_unchanged {existing required : α}
    (unchanged : (adopt existing required).changed = false) :
    (adopt existing required).value = existing := by
  unfold adopt at unchanged ⊢
  split
  · rfl
  · rw [if_neg (by assumption)] at unchanged
    cases unchanged

end Merged

theorem convergeDeployment_again (current desired : Deployment) :
    (convergeDeployment (convergeDeployment current desired).value desired).changed = false := by
  simp only [convergeDeployment, Deployment.stamped, Deployment.podAnnotations,
    Option.getD_some, Merged.adopt_adopt, ObjectMeta.stamped_stamped, Option.bind_some]
  simp

theorem convergeService_again (current desired : Service) :
    (convergeService (convergeService current desired).value desired).changed = false := by
  have same := ObjectMeta.stamped_annotate_stamped current.metadata
    desired.metadata.release servingCertificateAnnotation Operand.certificateSecret (by decide)
    (by decide)
  simp only [convergeService, Service.stamped, Option.getD_some, Merged.adopt_adopt, same]
  simp

theorem convergeConfigMap_again (current desired : ConfigMap) :
    (convergeConfigMap (convergeConfigMap current desired).value desired).changed = false := by
  simp only [convergeConfigMap, ConfigMap.stamped_stamped]
  simp

theorem convergeDeployment_stamped (d : Deployment) (release : String) :
    (convergeDeployment (d.stamped release) (d.stamped release)).changed = false := by
  simp only [convergeDeployment, Deployment.stamped, Deployment.podAnnotations,
    Option.getD_some, Merged.adopt_self, ObjectMeta.release_stamped, ObjectMeta.stamped_stamped,
    Option.bind_some]
  simp

theorem convergeService_stamped (s : Service) (release : String) :
    let stamped := s.stamped release Operand.certificateSecret
    (convergeService stamped stamped).changed = false := by
  have kept := ObjectMeta.annotation?_stamped_annotate s.metadata release
    servingCertificateAnnotation Operand.certificateSecret (by decide) (by decide)
  have same := ObjectMeta.stamped_annotate_stamped s.metadata release
    servingCertificateAnnotation Operand.certificateSecret (by decide) (by decide)
  simp only [convergeService, Service.stamped, Option.getD_some, Merged.adopt_self,
    ObjectMeta.release, kept, same]
  simp

theorem convergeConfigMap_stamped (c : ConfigMap) (release : String) :
    (convergeConfigMap (c.stamped release) (c.stamped release)).changed = false := by
  have kept := ObjectMeta.annotation?_stamped_annotate c.metadata release
    injectAuthoritiesAnnotation "true" (by decide) (by decide)
  have same := ObjectMeta.stamped_annotate_stamped c.metadata release
    injectAuthoritiesAnnotation "true" (by decide) (by decide)
  simp only [convergeConfigMap, ConfigMap.stamped, ObjectMeta.release, kept, Option.getD_some,
    same]
  simp

theorem ObjectMeta.eq_of_annotations {m other : ObjectMeta}
    (rest : other = { m with annotations := other.annotations })
    (same : m.annotations = other.annotations) : other = m := by
  rw [← same] at rest
  exact rest

theorem convergeDeployment_unchanged {current desired : Deployment}
    (unchanged : (convergeDeployment current desired).changed = false) :
    (convergeDeployment current desired).value = current := by
  simp only [convergeDeployment, Bool.or_eq_false_iff, bne_eq_false_iff_eq] at unchanged ⊢
  obtain ⟨⟨⟨replicas, pods⟩, annotations⟩, inner⟩ := unchanged
  obtain ⟨metadata, spec?, status⟩ := current
  cases spec? with
  | none => cases inner
  | some spec =>
    obtain ⟨count, selector, ⟨podMetadata?, podSpec⟩, strategy, paused, ready, limit, deadline⟩ :=
      spec
    cases podMetadata? with
    | none => cases inner
    | some podMetadata =>
      have kept : (Merged.adopt podSpec (desired.spec.getD {}).template.spec).value = podSpec :=
        Merged.adopt_of_unchanged pods
      have stamp : metadata.stamped desired.metadata.release = metadata :=
        ObjectMeta.eq_of_annotations rfl annotations
      have podStamp : podMetadata.stamped desired.metadata.release = podMetadata :=
        ObjectMeta.eq_of_annotations rfl inner
      simp only [Deployment.stamped, Option.getD_some, kept, ← replicas, stamp, podStamp]

theorem convergeService_opened {current desired : Service}
    (unchanged : (convergeService current desired).changed = false) :
    (convergeService current desired).value =
      { current with spec := some (current.spec.getD {}) } := by
  simp only [convergeService, Bool.or_eq_false_iff, bne_eq_false_iff_eq] at unchanged ⊢
  obtain ⟨⟨ports, selector⟩, annotations⟩ := unchanged
  have keptPorts : (Merged.adopt (current.spec.getD {}).ports (desired.spec.getD {}).ports).value =
      (current.spec.getD {}).ports := Merged.adopt_of_unchanged ports
  have keptSelector :
      (Merged.adopt (current.spec.getD {}).selector (desired.spec.getD {}).selector).value =
        (current.spec.getD {}).selector := Merged.adopt_of_unchanged selector
  have stamp : (current.metadata.stamped desired.metadata.release).annotate
      servingCertificateAnnotation Operand.certificateSecret = current.metadata :=
    ObjectMeta.eq_of_annotations rfl annotations
  rw [Service.stamped, keptPorts, keptSelector, stamp]

/-- It takes ports to tell a service without a spec from one with an empty one. -/
theorem convergeService_unchanged {current desired : Service}
    (asks : semanticEq none (desired.spec.getD {}).ports = false)
    (unchanged : (convergeService current desired).changed = false) :
    (convergeService current desired).value = current := by
  rw [convergeService_opened unchanged]
  obtain ⟨metadata, spec?, status⟩ := current
  cases spec? with
  | none =>
    simp only [convergeService, Bool.or_eq_false_iff] at unchanged
    have adopted : (Merged.adopt none (desired.spec.getD {}).ports).changed = true := by
      rw [Merged.adopt, if_neg (by simp [asks])]
    cases adopted.symm.trans unchanged.1.1
  | some spec => rfl

theorem convergeConfigMap_unchanged {current desired : ConfigMap}
    (unchanged : (convergeConfigMap current desired).changed = false) :
    (convergeConfigMap current desired).value = current := by
  simp only [convergeConfigMap, bne_eq_false_iff_eq] at unchanged ⊢
  have stamp : (current.metadata.stamped desired.metadata.release).annotate
      injectAuthoritiesAnnotation "true" = current.metadata :=
    ObjectMeta.eq_of_annotations rfl unchanged
  rw [ConfigMap.stamped, stamp]

namespace ManagedKind

variable {managed : ManagedKind}

theorem converge_again (current desired : managed.Object) :
    (managed.converge (managed.converge current desired).value desired).changed = false := by
  cases managed with
  | deployment => exact convergeDeployment_again current desired
  | service => exact convergeService_again current desired
  | configMap => exact convergeConfigMap_again current desired

theorem converge_stamped (object : managed.Object) (release : String) :
    (managed.converge (managed.stamped object release)
      (managed.stamped object release)).changed = false := by
  cases managed with
  | deployment => exact convergeDeployment_stamped object release
  | service => exact convergeService_stamped object release
  | configMap => exact convergeConfigMap_stamped object release

theorem metadata_converge (current desired : managed.Object) :
    ∃ annotations, managed.kind.metadata (managed.converge current desired).value =
      { managed.kind.metadata current with annotations } := by
  cases managed <;> exact ⟨_, rfl⟩

theorem converge_changed_withMetadata (object desired : managed.Object) (m : ObjectMeta)
    (same : m.annotations = (managed.kind.metadata object).annotations) :
    (managed.converge (managed.kind.withMetadata object m) desired).changed =
      (managed.converge object desired).changed := by
  cases managed with
  | deployment =>
    change m.annotations = (object : Deployment).metadata.annotations at same
    change (convergeDeployment { object with metadata := m } desired).changed =
      (convergeDeployment object desired).changed
    simp [convergeDeployment, Deployment.stamped, Deployment.podAnnotations, same]
  | service =>
    change m.annotations = (object : Service).metadata.annotations at same
    change (convergeService { object with metadata := m } desired).changed =
      (convergeService object desired).changed
    simp [convergeService, Service.stamped, same]
  | configMap =>
    change m.annotations = (object : ConfigMap).metadata.annotations at same
    change (convergeConfigMap { object with metadata := m } desired).changed =
      (convergeConfigMap object desired).changed
    simp [convergeConfigMap, ConfigMap.stamped, same]

theorem converge_changed_withStatusOf (object other desired : managed.Object) :
    (managed.converge (managed.kind.withStatusOf object other) desired).changed =
      (managed.converge object desired).changed := by
  cases managed <;> rfl

theorem converge_changed_withoutStatus (object desired : managed.Object) :
    (managed.converge (managed.kind.withoutStatus object) desired).changed =
      (managed.converge object desired).changed := by
  cases managed <;> rfl

end ManagedKind

end AutoscalerOperator
