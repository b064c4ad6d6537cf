import AutoscalerOperator.Proofs.Managed.Settled

namespace AutoscalerOperator

open Kubernetes

namespace SortedMap

variable {α : Type} {map : SortedMap α} {entries : List (String × α)} {key : String} {value : α}

def insertAll (map : SortedMap α) (entries : List (String × α)) : SortedMap α :=
  entries.foldl (fun map entry => map.insert entry.1 entry.2) map

theorem get?_insertAll_of_not_mem (map : SortedMap α) (absent : key ∉ entries.map (·.1)) :
    (map.insertAll entries).get? key = map.get? key := by
  induction entries generalizing map with
  | nil => rfl
  | cons entry rest ih =>
    rw [List.map_cons, List.mem_cons, not_or] at absent
    obtain ⟨other, later⟩ := absent
    have first := get?_insert map entry.1 key entry.2
    rw [if_neg (Ne.symm other)] at first
    exact (ih _ later).trans first

theorem get?_insertAll_of_mem (map : SortedMap α) (distinct : (entries.map (·.1)).Nodup)
    (member : (key, value) ∈ entries) : (map.insertAll entries).get? key = some value := by
  induction entries generalizing map with
  | nil => cases member
  | cons entry rest ih =>
    rw [List.map_cons, List.nodup_cons] at distinct
    obtain ⟨fresh, distinct⟩ := distinct
    rcases List.mem_cons.mp member with rfl | member
    · have first := get?_insert map key key value
      rw [if_pos rfl] at first
      exact (get?_insertAll_of_not_mem _ fresh).trans first
    · exact ih _ distinct member

theorem insertAll_of_held (held : ∀ entry ∈ entries, map.get? entry.1 = some entry.2) :
    map.insertAll entries = map := by
  induction entries with
  | nil => rfl
  | cons entry rest ih =>
    have first : map.insert entry.1 entry.2 = map := by
      apply SortedMap.ext
      intro key
      rw [get?_insert]
      split
      · rename_i here
        rw [← here, held entry List.mem_cons_self]
      · rfl
    change (map.insert entry.1 entry.2).insertAll rest = map
    rw [first]
    exact ih fun other member => held other (List.mem_cons_of_mem _ member)

end SortedMap

/-- What labels hold under a key. Labels that are missing hold nothing. -/
def labelAt (labels : Option Labels) (key : String) : Option String := labels.bind (·.get? key)

/-- Whether annotations hold all of these, word for word. -/
def Bears (annotations : Option Labels) (stamps : List (String × String)) : Prop :=
  ∀ stamp ∈ stamps, annotations.bind (·.get? stamp.1) = some stamp.2

def withStamps (annotations : Option Labels) (stamps : List (String × String)) : Option Labels :=
  some ((annotations.getD .empty).insertAll stamps)

theorem bears_withStamps {stamps : List (String × String)} (annotations : Option Labels)
    (distinct : (stamps.map (·.1)).Nodup) : Bears (withStamps annotations stamps) stamps :=
  fun _ member => SortedMap.get?_insertAll_of_mem _ distinct member

theorem bears_iff {annotations : Option Labels} {stamps : List (String × String)}
    (filled : stamps ≠ []) (distinct : (stamps.map (·.1)).Nodup) :
    Bears annotations stamps ↔ annotations = withStamps annotations stamps := by
  constructor
  · intro bears
    cases annotations with
    | none =>
      obtain ⟨stamp, rest, rfl⟩ := List.exists_cons_of_ne_nil filled
      cases bears stamp List.mem_cons_self
    | some annotations => exact congrArg some (SortedMap.insertAll_of_held bears).symm
  · intro same
    rw [same]
    exact bears_withStamps annotations distinct

namespace ManagedKind

/-- The annotations by which the operator keeps book on the objects of a kind. -/
def stamps : ManagedKind → (release : String) → List (String × String)
  | .deployment, release => [( criticalPodAnnotation, ""), ( releaseAnnotation, release)]
  | .service, release =>
    [( criticalPodAnnotation, ""), ( releaseAnnotation, release),
      ( servingCertificateAnnotation, Operand.certificateSecret)]
  | .configMap, release =>
    [( criticalPodAnnotation, ""), ( releaseAnnotation, release),
      ( injectAuthoritiesAnnotation, "true")]

theorem stamps_ne_nil (managed : ManagedKind) (release : String) : managed.stamps release ≠ [] := by
  cases managed <;> nofun

def stampKeys (managed : ManagedKind) : List String := (managed.stamps "").map (·.1)

theorem map_stamps (managed : ManagedKind) (release : String) :
    (managed.stamps release).map (·.1) = managed.stampKeys := by
  cases managed <;> rfl

theorem nodup_stamps (managed : ManagedKind) (release : String) :
    ((managed.stamps release).map (·.1)).Nodup := by
  rw [map_stamps]
  cases managed <;> decide

theorem get?_withStamps_of_not_mem {key : String} (annotations : Option Labels)
    (managed : ManagedKind) (release : String) (other : key ∉ managed.stampKeys) :
    (withStamps annotations (managed.stamps release)).bind (·.get? key) =
      annotations.bind (·.get? key) := by
  rw [← managed.map_stamps release] at other
  have kept := SortedMap.get?_insertAll_of_not_mem (annotations.getD .empty) other
  cases annotations <;> exact kept

end ManagedKind

def Kubernetes.Deployment.asked (d : Deployment) : DeploymentSpec := d.spec.getD {}

def Kubernetes.Service.asked (s : Service) : ServiceSpec := s.spec.getD {}

namespace ManagedKind

/-- Whether all that the operator owns of an object is as it is desired: replicas, pods and the
    annotations of both for a deployment, ports, selector and annotations for a service, annotations
    for a config map. -/
def InLine : (managed : ManagedKind) → (current desired : managed.Object) → Prop
  | .deployment, current, desired =>
    let stamps := ManagedKind.deployment.stamps (Deployment.metadata desired).release
    (Deployment.asked current).replicas = (Deployment.asked desired).replicas ∧
      semanticEq (Deployment.asked current).template.spec
        (Deployment.asked desired).template.spec = true ∧
      Bears (Deployment.metadata current).annotations stamps ∧
      Bears (Deployment.podAnnotations current) stamps
  | .service, current, desired =>
    semanticEq (Service.asked current).ports (Service.asked desired).ports = true ∧
      semanticEq (Service.asked current).selector (Service.asked desired).selector = true ∧
      Bears (Service.metadata current).annotations
        (ManagedKind.service.stamps (Service.metadata desired).release)
  | .configMap, current, desired =>
    Bears (ConfigMap.metadata current).annotations
      (ManagedKind.configMap.stamps (ConfigMap.metadata desired).release)

/-- An object with a spec, if only an empty one, where its kind is given one in any case. -/
def opened : (managed : ManagedKind) → managed.Object → managed.Object
  | .service, s => { s with spec := some (Service.asked s) }
  | .deployment, d => d
  | .configMap, c => c

end ManagedKind

theorem podAnnotations_convergeDeployment (current desired : Deployment) :
    (convergeDeployment current desired).value.podAnnotations = withStamps current.podAnnotations
      (ManagedKind.deployment.stamps desired.metadata.release) := by
  obtain ⟨metadata, spec?, status⟩ := current
  cases spec? with
  | none => rfl
  | some spec =>
    obtain ⟨count, selector, ⟨podMetadata?, pods⟩, strategy, paused, ready, limit, deadline⟩ := spec
    cases podMetadata? <;> rfl

theorem bears_stamps_iff (annotations : Option Labels) (managed : ManagedKind) (release : String) :
    Bears annotations (managed.stamps release) ↔
      annotations = withStamps annotations (managed.stamps release) :=
  bears_iff (managed.stamps_ne_nil release) (managed.nodup_stamps release)

theorem convergeDeployment_unchanged_iff (current desired : Deployment) :
    (convergeDeployment current desired).changed = false ↔
      ManagedKind.deployment.InLine current desired := by
  have said : (convergeDeployment current desired).changed =
      (current.asked.replicas != desired.asked.replicas ||
        (Merged.adopt current.asked.template.spec desired.asked.template.spec).changed ||
        current.metadata.annotations != withStamps current.metadata.annotations
          (ManagedKind.deployment.stamps desired.metadata.release) ||
        current.podAnnotations != (convergeDeployment current desired).value.podAnnotations) := rfl
  rw [said, podAnnotations_convergeDeployment, Merged.changed_adopt]
  simp only [Bool.or_eq_false_iff, bne_eq_false_iff_eq, Bool.not_eq_false', and_assoc,
    ← bears_stamps_iff]
  rfl

theorem convergeService_unchanged_iff (current desired : Service) :
    (convergeService current desired).changed = false ↔
      ManagedKind.service.InLine current desired := by
  have said : (convergeService current desired).changed =
      ((Merged.adopt current.asked.ports desired.asked.ports).changed ||
        (Merged.adopt current.asked.selector desired.asked.selector).changed ||
        current.metadata.annotations != withStamps current.metadata.annotations
          (ManagedKind.service.stamps desired.metadata.release)) := rfl
  rw [said, Merged.changed_adopt, Merged.changed_adopt]
  simp only [Bool.or_eq_false_iff, bne_eq_false_iff_eq, Bool.not_eq_false', and_assoc,
    ← bears_stamps_iff]
  rfl

theorem convergeConfigMap_unchanged_iff (current desired : ConfigMap) :
    (convergeConfigMap current desired).changed = false ↔
      ManagedKind.configMap.InLine current desired := by
  have said : (convergeConfigMap current desired).changed =
      (current.metadata.annotations != withStamps current.metadata.annotations
        (ManagedKind.configMap.stamps desired.metadata.release)) := rfl
  rw [said, bne_eq_false_iff_eq, ← bears_stamps_iff]
  rfl

namespace ManagedKind

variable {managed : ManagedKind}

theorem annotations_converge (current desired : managed.Object) :
    (managed.kind.metadata (managed.converge current desired).value).annotations =
      withStamps (managed.kind.metadata current).annotations
        (managed.stamps (managed.kind.metadata desired).release) := by
  cases managed <;> rfl

theorem unchanged_iff_inLine (current desired : managed.Object) :
    (managed.converge current desired).changed = false ↔ managed.InLine current desired := by
  cases managed with
  | deployment => exact convergeDeployment_unchanged_iff current desired
  | service => exact convergeService_unchanged_iff current desired
  | configMap => exact convergeConfigMap_unchanged_iff current desired

theorem opened_of_unchanged {current desired : managed.Object}
    (unchanged : (managed.converge current desired).changed = false) :
    (managed.converge current desired).value = managed.opened current := by
  cases managed with
  | deployment => exact convergeDeployment_unchanged unchanged
  | service => exact convergeService_opened unchanged
  | configMap => exact convergeConfigMap_unchanged unchanged

theorem opened_converge (current desired : managed.Object) :
    managed.opened (managed.converge current desired).value =
      (managed.converge current desired).value := by
  cases managed <;> rfl

/-- Drift is told exactly, and repaired: an object counts as changed if something that the operator
    owns of it was not as desired, and nothing is left to do after that. One that counts as unchanged
    is, but for a spec where there was none. -/
theorem converge_exact (managed : ManagedKind) (current desired : managed.Object) :
    let converged := managed.converge current desired
    (converged.changed = true ↔ ¬managed.InLine current desired) ∧
      managed.InLine converged.value desired ∧
      managed.converge converged.value desired = ⟨converged.value, false⟩ ∧
      (converged.changed = false → converged.value = managed.opened current) := by
  intro converged
  have again : (managed.converge converged.value desired).changed = false :=
    converge_again current desired
  have kept : (managed.converge converged.value desired).value = converged.value :=
    (opened_of_unchanged again).trans (opened_converge current desired)
  refine ⟨?_, (unchanged_iff_inLine _ _).mp again, ?_, opened_of_unchanged⟩
  · rw [← unchanged_iff_inLine, Bool.not_eq_false]
  · calc
      managed.converge converged.value desired =
          ⟨(managed.converge converged.value desired).value,
            (managed.converge converged.value desired).changed⟩ := rfl
      _ = ⟨converged.value, false⟩ := by rw [kept, again]

-- What the operator never asks for is drift, too.
example : semanticEq (some { hostPID := some true } : Option PodSpec) (some {}) = false := by decide

end ManagedKind

end AutoscalerOperator
