import AutoscalerOperator.Managed.Basic

namespace AutoscalerOperator

namespace SortedMap

theorem insert_insert {α : Type} (map : SortedMap α) (key : String) (early late : α) :
    (map.insert key early).insert key late = map.insert key late := by
  apply SortedMap.ext
  intro other
  simp only [get?_insert]
  split <;> rfl

theorem insert_comm {α : Type} (map : SortedMap α) {key other : String} (different : key ≠ other)
    (first second : α) :
    (map.insert key first).insert other second = (map.insert other second).insert key first := by
  apply SortedMap.ext
  intro asked
  simp only [get?_insert]
  by_cases here : other = asked
  · have elsewhere : key ≠ asked := fun same => different (same.trans here.symm)
    rw [if_pos here, if_neg elsewhere, if_pos here]
  · rw [if_neg here, if_neg here]

end SortedMap

namespace Kubernetes

namespace ObjectMeta

variable {m : ObjectMeta} {key value release : String}

@[simp] theorem annotations_annotate (m : ObjectMeta) (key value : String) :
    (m.annotate key value).annotations = some ((m.annotations.getD .empty).insert key value) :=
  rfl

@[simp] theorem annotations_stamped (m : ObjectMeta) (release : String) :
    (m.stamped release).annotations =
      some (((m.annotations.getD .empty).insert criticalPodAnnotation "").insert
        releaseAnnotation release) :=
  rfl

theorem annotation?_annotate (m : ObjectMeta) (key value other : String) :
    (m.annotate key value).annotation? other =
      if key = other then some value else m.annotation? other := by
  simp only [annotate, annotation?, Option.bind_some, SortedMap.get?_insert]
  cases m.annotations <;> rfl

theorem annotation?_stamped (m : ObjectMeta) (release : String) :
    (m.stamped release).annotation? criticalPodAnnotation = some "" ∧
      (m.stamped release).annotation? releaseAnnotation = some release := by
  unfold stamped
  constructor
  · rw [annotation?_annotate, if_neg (by decide), annotation?_annotate, if_pos rfl]
  · rw [annotation?_annotate, if_pos rfl]

theorem annotate_annotate (m : ObjectMeta) (key early late : String) :
    (m.annotate key early).annotate key late = m.annotate key late := by
  simp only [annotate, Option.getD_some, SortedMap.insert_insert]

theorem annotate_comm (m : ObjectMeta) {key other : String} (different : key ≠ other)
    (first second : String) :
    (m.annotate key first).annotate other second = (m.annotate other second).annotate key first := by
  simp only [annotate, Option.getD_some, SortedMap.insert_comm _ different]

theorem stamped_again (m : ObjectMeta) (early late : String) :
    (m.stamped early).stamped late = m.stamped late := by
  have apart : releaseAnnotation ≠ criticalPodAnnotation := by decide
  simp only [stamped]
  rw [annotate_comm _ apart, annotate_annotate, annotate_annotate]

theorem stamped_annotate_again (m : ObjectMeta) (early late : String) {key : String}
    (value : String) (critical : key ≠ criticalPodAnnotation) (released : key ≠ releaseAnnotation) :
    (((m.stamped early).annotate key value).stamped late).annotate key value =
      (m.stamped late).annotate key value := by
  have moved : ((m.stamped early).annotate key value).stamped late =
      ((m.stamped early).stamped late).annotate key value := by
    unfold stamped
    rw [annotate_comm _ critical, annotate_comm _ released]
  rw [moved, annotate_annotate, stamped_again]

@[simp] theorem stamped_stamped (m : ObjectMeta) (release : String) :
    (m.stamped release).stamped release = m.stamped release :=
  stamped_again m release release

@[simp] theorem release_stamped (m : ObjectMeta) (release : String) :
    (m.stamped release).release = release := by
  rw [ObjectMeta.release, (annotation?_stamped m release).2]
  rfl

theorem annotation?_stamped_annotate (m : ObjectMeta) (release key value : String)
    (critical : key ≠ criticalPodAnnotation) (released : key ≠ releaseAnnotation) :
    ((m.stamped release).annotate key value).annotation? criticalPodAnnotation = some "" ∧
      ((m.stamped release).annotate key value).annotation? releaseAnnotation = some release := by
  rw [annotation?_annotate, annotation?_annotate, if_neg critical, if_neg released]
  exact annotation?_stamped m release

theorem stamped_annotate_stamped (m : ObjectMeta) (release key value : String)
    (critical : key ≠ criticalPodAnnotation) (released : key ≠ releaseAnnotation) :
    (((m.stamped release).annotate key value).stamped release).annotate key value =
      (m.stamped release).annotate key value :=
  stamped_annotate_again m release release value critical released

end ObjectMeta

theorem Deployment.stamped_again (d : Deployment) (early late : String) :
    (d.stamped early).stamped late = d.stamped late := by
  simp only [Deployment.stamped, Option.getD_some, ObjectMeta.stamped_again]

theorem Service.stamped_again (s : Service) (early late secret : String) :
    (s.stamped early secret).stamped late secret = s.stamped late secret := by
  have same := ObjectMeta.stamped_annotate_again s.metadata early late secret
    (by decide : servingCertificateAnnotation ≠ criticalPodAnnotation) (by decide)
  simp only [Service.stamped, same]

theorem ConfigMap.stamped_again (c : ConfigMap) (early late : String) :
    (c.stamped early).stamped late = c.stamped late := by
  have same := ObjectMeta.stamped_annotate_again c.metadata early late "true"
    (by decide : injectAuthoritiesAnnotation ≠ criticalPodAnnotation) (by decide)
  simp only [ConfigMap.stamped, same]

theorem ConfigMap.stamped_stamped (c : ConfigMap) (release : String) :
    (c.stamped release).stamped release = c.stamped release :=
  c.stamped_again release release

end Kubernetes

end AutoscalerOperator
