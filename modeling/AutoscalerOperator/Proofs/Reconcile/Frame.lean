import AutoscalerOperator.Proofs.Managed.Drift
import AutoscalerOperator.Proofs.Managed.Parts
import AutoscalerOperator.Proofs.Reconcile.Fixpoint

namespace AutoscalerOperator

open Kubernetes

namespace ManagedKind

/-- Whether two objects hold the same apart from metadata, status and what the operator asks of
    their kind: replicas and pods of a deployment, ports and selector of a service. -/
def SameRest : (managed : ManagedKind) → (before after : managed.Object) → Prop
  | .deployment, before, after =>
    let asked := Deployment.asked after
    asked = { Deployment.asked before with replicas := asked.replicas, template := asked.template } ∧
      ∀ key ∉ ManagedKind.deployment.stampKeys,
        (Deployment.podAnnotations after).bind (·.get? key) =
          (Deployment.podAnnotations before).bind (·.get? key)
  | .service, before, after =>
    let asked := Service.asked after
    asked = { Service.asked before with ports := asked.ports, selector := asked.selector }
  | .configMap, before, after => after = { before with metadata := ConfigMap.metadata after }

/-- What a pass leaves as it is of an object that it finds. -/
structure Spares (managed : ManagedKind) (before after : managed.Object) : Prop where
  metadata : managed.kind.metadata after = { managed.kind.metadata before with
    annotations := (managed.kind.metadata after).annotations
    resourceVersion := (managed.kind.metadata after).resourceVersion
    generation := (managed.kind.metadata after).generation }
  annotations : ∀ key ∉ managed.stampKeys,
    (managed.kind.metadata after).annotation? key = (managed.kind.metadata before).annotation? key
  status : managed.kind.withStatusOf after before = after
  rest : managed.SameRest before after

structure MadeFor (managed : ManagedKind) (owner : AutoscalerController) (made : managed.Object) :
    Prop where
  stateless : managed.kind.withoutStatus made = made
  owned : ∀ name uid, owner.metadata.name = some name → owner.metadata.uid = some uid →
    ∃ reference : OwnerReference,
      (managed.kind.metadata made).ownerReferences = some [reference] ∧
        reference.controller = some true ∧ reference.uid = uid

variable {managed : ManagedKind}

theorem Spares.refl (object : managed.Object) : managed.Spares object object where
  metadata := rfl
  annotations _ _ := rfl
  status := by cases managed <;> rfl
  rest := by
    cases managed with
    | deployment => exact ⟨rfl, fun _ _ => rfl⟩
    | service | configMap => rfl

theorem annotations_replaced (cluster : Cluster) (current desired : managed.Object) :
    (managed.kind.metadata (cluster.replaced managed.kind current
        (managed.converge current desired).value)).annotations =
      withStamps (managed.kind.metadata current).annotations
        (managed.stamps (managed.kind.metadata desired).release) := by
  rw [← annotations_converge]
  simp [Cluster.replaced]

theorem sameRest_replaced (cluster : Cluster) (current desired : managed.Object) :
    managed.SameRest current (cluster.replaced managed.kind current
      (managed.converge current desired).value) := by
  cases managed with
  | deployment =>
    refine ⟨rfl, fun key other => ?_⟩
    change (convergeDeployment current desired).value.podAnnotations.bind _ = _
    rw [podAnnotations_convergeDeployment]
    exact get?_withStamps_of_not_mem _ .deployment _ other
  | service | configMap => rfl

theorem spares_replaced (cluster : Cluster) (current desired : managed.Object) :
    managed.Spares current (cluster.replaced managed.kind current
      (managed.converge current desired).value) where
  metadata := by
    obtain ⟨annotations, same⟩ := managed.metadata_converge current desired
    simp [Cluster.replaced, same]
  annotations key other := by
    unfold ObjectMeta.annotation?
    rw [annotations_replaced]
    exact get?_withStamps_of_not_mem _ managed _ other
  status := by cases managed <;> rfl
  rest := sameRest_replaced cluster current desired

theorem madeFor_created (cluster : Cluster) (owner : AutoscalerController)
    (desired : managed.Object) :
    managed.MadeFor owner (cluster.created managed.kind (ownedBy owner managed.kind desired)) where
  stateless := by cases managed <;> rfl
  owned name uid named identified := by
    let reference : OwnerReference := {
      apiVersion := AutoscalerController.apiVersion, kind := AutoscalerController.kindName
      name, uid, controller := some true }
    have refers : owner.ownerReference? = some reference := by
      simp [AutoscalerController.ownerReference?, named, identified, reference]
    exact ⟨reference, by simp [Cluster.created, ownedBy, refers], rfl, rfl⟩

end ManagedKind

namespace Cluster

variable {cluster : Cluster} {owner : AutoscalerController} {desired : ManagedObject}

theorem spares_brought {before after : desired.managed.Object}
    (found : cluster.find? desired.managed.kind desired.key = some before)
    (left : (cluster.brought owner desired).find? desired.managed.kind desired.key = some after) :
    desired.managed.Spares before after := by
  cases drifted : (desired.managed.converge before desired.object).changed with
  | true =>
    rw [brought_of_drifted owner found drifted, find?_replaced _ found] at left
    cases left
    exact ManagedKind.spares_replaced cluster before desired.object
  | false =>
    have settled : cluster.Settled desired := ⟨before, found, drifted⟩
    rw [settled.brought_eq, found] at left
    cases left
    exact .refl before

theorem madeFor_brought {made : desired.managed.Object}
    (missing : cluster.find? desired.managed.kind desired.key = none)
    (left : (cluster.brought owner desired).find? desired.managed.kind desired.key = some made) :
    desired.managed.MadeFor owner made := by
  rw [brought_of_missing owner missing, find?_created] at left
  cases left
  exact ManagedKind.madeFor_created cluster owner desired.object

/-- Whether a place is one of those of the instance that is stored. -/
def Owned (cluster : Cluster) (config : Config) (namespaceName : String) (kind : Kind)
    (key : ObjectKey) : Prop :=
  ∃ owner, cluster.find? .controller ⟨some namespaceName, config.name⟩ = some owner ∧
    ∃ part : Part, part.managed.kind = kind ∧
      part.place owner.displayName config.operandNamespace = key

section

variable {config : Config} {done rest : List ManagedObject}

theorem find?_passed_elsewhere {kind : Kind} {key : ObjectKey}
    (whole : desiredObjects owner config = done ++ rest)
    (elsewhere : ∀ part : Part, part.managed.kind = kind →
      part.place owner.displayName config.operandNamespace ≠ key) :
    (cluster.passed owner done).find? kind key = cluster.find? kind key := by
  refine find?_passed_of_ne cluster owner fun other reached => ?_
  have member : other ∈ desiredObjects owner config := whole ▸ List.mem_append_left rest reached
  rw [Part.desiredObjects_eq] at member
  obtain ⟨part, -, rfl⟩ := List.mem_map.mp member
  by_cases same : part.managed.kind = kind
  · exact .inr (part.key_object owner config ▸ elsewhere part same)
  · exact .inl same

theorem find?_passed_part (cluster : Cluster) (whole : desiredObjects owner config = done ++ rest)
    (part : Part) :
    let key := part.place owner.displayName config.operandNamespace
    (cluster.passed owner done).find? part.managed.kind key =
        cluster.find? part.managed.kind key ∨
      ∃ between : Cluster, between.find? part.managed.kind key =
          cluster.find? part.managed.kind key ∧
        (cluster.passed owner done).find? part.managed.kind key =
          (between.brought owner (part.object owner config)).find? part.managed.kind key := by
  have apart := apart_desiredObjects owner config
  have member := part.mem_desiredObjects owner config
  rw [whole] at apart member
  rw [← part.key_object]
  obtain ⟨early, -, across⟩ := List.pairwise_append.mp apart
  rcases List.mem_append.mp member with reached | later
  · exact .inr (find?_passed cluster owner early reached)
  · exact .inl (find?_passed_of_ne cluster owner fun other reached => across other reached _ later)

theorem passed_spares (whole : desiredObjects owner config = done ++ rest) (part : Part) :
    let key := part.place owner.displayName config.operandNamespace
    let after := cluster.passed owner done
    (∀ before now, cluster.find? part.managed.kind key = some before →
      after.find? part.managed.kind key = some now → part.managed.Spares before now) ∧
    ∀ made, cluster.find? part.managed.kind key = none →
      after.find? part.managed.kind key = some made → part.managed.MadeFor owner made := by
  have ran := find?_passed_part cluster whole part
  rw [← part.key_object] at ran ⊢
  rcases ran with same | ⟨between, same, left⟩
  · constructor
    · intro before now found stands
      cases found.symm.trans (same.symm.trans stands)
      exact .refl before
    · intro made missing stands
      cases missing.symm.trans (same.symm.trans stands)
  · constructor
    · intro before now found stands
      exact spares_brought (same.trans found) (left.symm.trans stands)
    · intro made missing stands
      exact madeFor_brought (same.trans missing) (left.symm.trans stands)

theorem find?_passed_ne_none {kind : Kind} {key : ObjectKey}
    (whole : desiredObjects owner config = done ++ rest)
    (there : cluster.find? kind key ≠ none) : (cluster.passed owner done).find? kind key ≠ none := by
  by_cases own : ∃ part : Part, part.managed.kind = kind ∧
      part.place owner.displayName config.operandNamespace = key
  · obtain ⟨part, rfl, rfl⟩ := own
    rcases find?_passed_part cluster whole part with same | ⟨between, -, left⟩
    · rwa [same]
    · obtain ⟨current, found, -⟩ := settled_brought between owner (part.complete owner config)
      rw [part.key_object] at found
      intro missing
      cases found.symm.trans (left.symm.trans missing)
  · rwa [find?_passed_elsewhere whole fun part same place => own ⟨part, same, place⟩]

end

end Cluster

/-- A pass for another name does nothing. Any other changes nothing but what the instance owns,
    removes nothing, and spares of what it finds all that the operator does not own. What it creates
    is new and belongs to the instance. -/
theorem reconcile_spares (config : Config) (namespaceName name : String) {s : Simulation}
    (keyed : s.cluster.Keyed) :
    let after := ((reconcile config namespaceName name).run Simulation.handle s).2
    (name ≠ config.name → after = s) ∧
      (∀ kind key, ¬s.cluster.Owned config namespaceName kind key →
        after.cluster.find? kind key = s.cluster.find? kind key) ∧
      (∀ kind key, s.cluster.find? kind key ≠ none → after.cluster.find? kind key ≠ none) ∧
      (∀ owner, s.cluster.find? .controller ⟨some namespaceName, config.name⟩ = some owner →
        ∀ part : Part, let key := part.place owner.displayName config.operandNamespace
          (∀ before now, s.cluster.find? part.managed.kind key = some before →
            after.cluster.find? part.managed.kind key = some now →
            part.managed.Spares before now) ∧
          ∀ made, s.cluster.find? part.managed.kind key = none →
            after.cluster.find? part.managed.kind key = some made →
            part.managed.MadeFor owner made) := by
  intro after
  have other : name ≠ config.name → after = s := by
    intro different
    change (Program.run Simulation.handle (if name = config.name then _ else _) s).2 = s
    rw [if_neg different]
    rfl
  have ran := reconcile_effect keyed (s.runs (reconcile config namespaceName name))
  change after.cluster = _ ∨ _ at ran
  refine ⟨other, ?_⟩
  rcases ran with same | ⟨rfl, owner, done, rest, stored, whole, effect⟩
  · rw [same]
    refine ⟨fun _ _ _ => rfl, fun _ _ there => there, fun owner stored part => ⟨?_, ?_⟩⟩
    · intro before now found stands
      cases found.symm.trans stands
      exact .refl before
    · intro made missing stands
      cases missing.symm.trans stands
  · rw [effect]
    refine ⟨fun kind key elsewhere => ?_, fun kind key => Cluster.find?_passed_ne_none whole, ?_⟩
    · refine Cluster.find?_passed_elsewhere whole fun part same place => ?_
      exact elsewhere ⟨owner, stored, part, same, place⟩
    · intro other found
      cases stored.symm.trans found
      exact Cluster.passed_spares whole

theorem neglected_spared :
    let after := ((reconcile {} "here" "default").run Simulation.handle .neglected).2
    let webhook : ObjectKey := ⟨some ({} : Config).operandNamespace, "vpa-webhook"⟩
    ∃ before now, Simulation.neglected.cluster.find? .service webhook = some before ∧
      after.cluster.find? .service webhook = some now ∧ ManagedKind.service.Spares before now := by
  intro after webhook
  obtain ⟨-, -, kept, spared⟩ := reconcile_spares {} "here" "default" Simulation.keyed_neglected
  obtain ⟨before, found⟩ : ∃ before, Simulation.neglected.cluster.find? .service webhook =
    some before := ⟨_, rfl⟩
  have there : after.cluster.find? .service webhook ≠ none :=
    kept .service webhook (by rw [found]; nofun)
  obtain ⟨now, stands⟩ := Option.ne_none_iff_exists'.mp there
  exact ⟨before, now, found, stands, (spared _ rfl .service).1 before now found stands⟩

end AutoscalerOperator
