import AutoscalerOperator.Proofs.Managed.Drift

namespace AutoscalerOperator

open Kubernetes

/-- A change of what an instance asks for, in one of the ways in which it is open to change. -/
inductive Edit
  | overrides (operand : Operand) (o : DeploymentOverride)
  | recommendation (marginFraction minCpu minMemory : Option Double)
  | minReplicas (count : Option Int64)
  | recommendationOnly (only : Option Bool)

namespace Edit

def applied : Edit → ControllerSpec → ControllerSpec
  | .overrides operand o, spec =>
    let given := spec.deploymentOverrides
    { spec with
      deploymentOverrides := match operand with
        | .recommender => { given with recommender := o }
        | .updater => { given with updater := o }
        | .admission => { given with admission := o } }
  | .recommendation marginFraction minCpu minMemory, spec =>
    { spec with
      safetyMarginFraction := marginFraction
      podMinCpuMillicores := minCpu
      podMinMemoryMb := minMemory }
  | .minReplicas count, spec => { spec with minReplicas := count }
  | .recommendationOnly only, spec => { spec with recommendationOnly := only }

def operands : Edit → List Operand
  | .overrides operand _ => [operand]
  | .recommendation .. => [.recommender]
  | .minReplicas _ => [.updater]
  | .recommendationOnly _ => [.updater, .admission]

end Edit

namespace Operand

variable {operand : Operand} {left right : ControllerSpec}

/-- Whether two specs agree in all that an operand's pods are made from. -/
structure SameInputs (operand : Operand) (left right : ControllerSpec) : Prop where
  overrides : operand.overrideIn left = operand.overrideIn right
  args : operand.ownArgs left = operand.ownArgs right

theorem SameInputs.podSpec (same : operand.SameInputs left right) (config : Config) :
    operand.podSpec left config = operand.podSpec right config := by
  unfold Operand.podSpec Operand.container Operand.args
  rw [same.overrides, same.args]

theorem sameInputs_of_not_mem {edit : Edit} (other : operand ∉ edit.operands)
    (spec : ControllerSpec) : operand.SameInputs spec (edit.applied spec) := by
  cases edit with
  | overrides affected o =>
    have different : operand ≠ affected := fun same => other (List.mem_singleton.mpr same)
    cases affected <;> cases operand <;> first | exact ⟨rfl, rfl⟩ | exact absurd rfl different
  | recommendation marginFraction minCpu minMemory =>
    cases operand with
    | recommender => exact absurd List.mem_cons_self other
    | updater | admission => exact ⟨rfl, rfl⟩
  | minReplicas count =>
    cases operand with
    | updater => exact absurd List.mem_cons_self other
    | recommender | admission => exact ⟨rfl, rfl⟩
  | recommendationOnly only => cases operand <;> exact ⟨rfl, rfl⟩

theorem sameInputs_recommendationOnly (operand : Operand) (spec : ControllerSpec)
    (only : Option Bool) :
    operand.SameInputs spec ((Edit.recommendationOnly only).applied spec) := by
  cases operand <;> exact ⟨rfl, rfl⟩

theorem replicas_of_not_mem {edit : Edit} (other : operand ∉ edit.operands)
    (spec : ControllerSpec) : operand.replicas spec = operand.replicas (edit.applied spec) := by
  cases edit with
  | overrides | recommendation | minReplicas => rfl
  | recommendationOnly only =>
    cases operand with
    | recommender => rfl
    | updater | admission => exact absurd (by simp [Edit.operands]) other

end Operand

section

variable {before after : AutoscalerController}

theorem desiredDeployment_of_not_mem {operand : Operand} {edit : Edit}
    (named : before.displayName = after.displayName)
    (edited : after.spec = edit.applied before.spec) (other : operand ∉ edit.operands)
    (config : Config) :
    desiredDeployment operand before config = desiredDeployment operand after config := by
  have pods := (Operand.sameInputs_of_not_mem other before.spec).podSpec config
  have replicas := Operand.replicas_of_not_mem other before.spec
  unfold desiredDeployment
  rw [named, edited, pods, replicas]

theorem podSpec_desiredDeployment_of_recommendationOnly {only : Option Bool}
    (edited : after.spec = (Edit.recommendationOnly only).applied before.spec) (operand : Operand)
    (config : Config) :
    (desiredDeployment operand before config).asked.template.spec =
      (desiredDeployment operand after config).asked.template.spec := by
  change some (operand.podSpec before.spec config) = some (operand.podSpec after.spec config)
  rw [edited, (operand.sameInputs_recommendationOnly before.spec only).podSpec]

end

def Kubernetes.Deployment.scaled (d : Deployment) (replicas : Option Int32) : Deployment :=
  { d with spec := some { d.asked with replicas } }

theorem podAnnotations_scaled (d : Deployment) (replicas : Option Int32) :
    (d.scaled replicas).podAnnotations = d.podAnnotations := by
  obtain ⟨metadata, spec?, status⟩ := d
  cases spec? <;> rfl

theorem convergeDeployment_of_samePods {current desired other : Deployment}
    (settled : (convergeDeployment current desired).changed = false)
    (release : desired.metadata.release = other.metadata.release)
    (pods : desired.asked.template.spec = other.asked.template.spec) :
    (convergeDeployment current other).value = current.scaled other.asked.replicas := by
  let scaled := current.scaled other.asked.replicas
  obtain ⟨-, same, stamped, podsStamped⟩ := (convergeDeployment_unchanged_iff ..).mp settled
  rw [release] at stamped podsStamped
  rw [pods] at same
  have inLine : ManagedKind.deployment.InLine scaled other := by
    refine ⟨rfl, same, stamped, ?_⟩
    rw [podAnnotations_scaled]
    exact podsStamped
  have overwritten : (convergeDeployment current other).value =
      (convergeDeployment scaled other).value := rfl
  rw [overwritten]
  exact convergeDeployment_unchanged ((convergeDeployment_unchanged_iff ..).mpr inLine)

end AutoscalerOperator
