import AutoscalerOperator.Proofs.Managed.Owned
import AutoscalerOperator.Proofs.Managed.Scope

namespace AutoscalerOperator

open Kubernetes

inductive Part
  | deployment (operand : Operand)
  | service
  | configMap

/-- Whether two instances own the same objects: they have one name and one uid. Where there is no
    name, what it is generated from stands in for it. -/
structure AutoscalerController.SameOwner (left right : AutoscalerController) : Prop where
  name : left.metadata.name = right.metadata.name
  uid : left.metadata.uid = right.metadata.uid
  unnamed : left.metadata.name = none → left.metadata.generateName = right.metadata.generateName

theorem AutoscalerController.SameOwner.displayName {left right : AutoscalerController}
    (same : left.SameOwner right) : left.displayName = right.displayName := by
  unfold AutoscalerController.displayName ObjectMeta.nameOrGenerated
  cases named : left.metadata.name with
  | none => rw [← same.name, named, same.unnamed named]
  | some name => rw [← same.name, named, Option.some_or, Option.some_or]

namespace Kind

/-- An object without what tells only its writes apart. -/
def unversioned (kind : Kind) (object : kind.Object) : kind.Object :=
  kind.withMetadata object { kind.metadata object with
    resourceVersion := none, generation := none, uid := none }

end Kind

namespace Part

abbrev managed : Part → ManagedKind
  | .deployment _ => .deployment
  | .service => .service
  | .configMap => .configMap

def desired : (part : Part) → AutoscalerController → Config → part.managed.Object
  | .deployment operand, owner, config => desiredDeployment operand owner config
  | .service, _, config => desiredService config
  | .configMap, _, config => desiredConfigMap config

def all : List Part := Operand.all.map .deployment ++ [.service, .configMap]

def object (part : Part) (owner : AutoscalerController) (config : Config) : ManagedObject :=
  ⟨part.managed, part.desired owner config⟩

def place : Part → (instanceName space : String) → ObjectKey
  | .deployment operand, instanceName, space => ⟨some space, operand.resourceName instanceName⟩
  | .service, _, space => ⟨some space, "vpa-webhook"⟩
  | .configMap, _, space => ⟨some space, Operand.authorityConfigMap⟩

theorem desiredObjects_eq (owner : AutoscalerController) (config : Config) :
    desiredObjects owner config = all.map (·.object owner config) :=
  rfl

theorem mem_desiredObjects (part : Part) (owner : AutoscalerController) (config : Config) :
    part.object owner config ∈ desiredObjects owner config := by
  rw [desiredObjects_eq]
  refine List.mem_map_of_mem ?_
  cases part with
  | deployment operand => cases operand <;> simp [all, Operand.all]
  | service | configMap => simp [all]

theorem complete (part : Part) (owner : AutoscalerController) (config : Config) :
    (part.object owner config).Complete :=
  complete_desiredObjects owner config _ (part.mem_desiredObjects owner config)

def fresh (part : Part) (owner : AutoscalerController) (config : Config) : part.managed.Object :=
  ownedBy owner part.managed.kind (part.desired owner config)

section

variable {owner other : AutoscalerController} {config config' : Config}

theorem key_object (part : Part) (owner : AutoscalerController) (config : Config) :
    (part.object owner config).key = part.place owner.displayName config.operandNamespace := by
  cases part <;> rfl

theorem key_eq (part : Part) (same : owner.SameOwner other)
    (space : config.operandNamespace = config'.operandNamespace) :
    (part.object owner config).key = (part.object other config').key := by
  rw [key_object, key_object, same.displayName, space]

theorem ownerReference?_eq (same : owner.SameOwner other) :
    owner.ownerReference? = other.ownerReference? := by
  simp only [AutoscalerController.ownerReference?, same.name, same.uid]

def skeleton : (part : Part) → (instanceName space : String) → Option (List OwnerReference) →
    part.managed.Object
  | .deployment operand, instanceName, space, ownerReferences =>
    let labels := some (operand.labels instanceName)
    ({ metadata := {
          name := some (operand.resourceName instanceName)
          namespaceName := some space
          labels, ownerReferences }
       spec := some {
          selector := { matchLabels := labels }
          template := { metadata := some { labels } } } } : Deployment)
  | .service, _, space, ownerReferences =>
    ({ metadata := { name := some "vpa-webhook", namespaceName := some space, ownerReferences }
       spec := some {} } : Service)
  | .configMap, _, space, ownerReferences =>
    ({ metadata := {
          name := some Operand.authorityConfigMap
          namespaceName := some space
          ownerReferences } } : ConfigMap)

theorem bare_fresh_eq (part : Part) (owner : AutoscalerController) (config : Config) :
    part.managed.bare (part.fresh owner config) =
      part.managed.stamped (part.skeleton owner.displayName config.operandNamespace
        (owner.ownerReference?.map ([·]))) "" := by
  unfold fresh ownedBy
  generalize owner.ownerReference? = reference?
  let core := part.skeleton owner.displayName config.operandNamespace (reference?.map ([·]))
  -- Whether there is an owner to refer to or not, the object is its skeleton, stamped and asked.
  cases part with
  | deployment operand =>
    have again := Deployment.stamped_again core config.releaseVersion ""
    cases reference? <;> exact again
  | service =>
    have again := Service.stamped_again core config.releaseVersion "" Operand.certificateSecret
    cases reference? <;> exact again
  | configMap =>
    have again := ConfigMap.stamped_again core config.releaseVersion ""
    cases reference? <;> exact again

theorem bare_fresh (part : Part) (same : owner.SameOwner other)
    (space : config.operandNamespace = config'.operandNamespace) :
    part.managed.bare (part.fresh owner config) = part.managed.bare (part.fresh other config') := by
  rw [bare_fresh_eq, bare_fresh_eq, ownerReference?_eq same, same.displayName, space]

end

end Part

end AutoscalerOperator
