import AutoscalerOperator.ClusterOperator.Coding
import AutoscalerOperator.Merged

namespace AutoscalerOperator

open Kubernetes

/-- An empty or absent required text leaves the existing one alone. -/
def mergeText (existing required : Option String) : Merged (Option String) :=
  match required with
  | none => ⟨existing, false⟩
  | some text =>
    if text = "" ∨ existing = some text then ⟨existing, false⟩ else ⟨some text, true⟩

def putLabel (labels : Labels) (key value : String) : Merged Labels :=
  if labels.get? key = some value then ⟨labels, false⟩ else ⟨labels.insert key value, true⟩

def mergeLabels (existing required : Option Labels) : Merged (Option Labels) :=
  match required with
  | none => ⟨existing, false⟩
  | some required =>
    let start : Merged Labels := ⟨existing.getD .empty, false⟩
    let merged := required.entries.foldl
      (fun merged (key, value) => merged.andThen (putLabel · key value)) start
    merged.map some

/-- Takes the place of the first reference with the same uid, or else the last place. -/
def putOwnerReference (required : OwnerReference) :
    List OwnerReference → Merged (List OwnerReference)
  | [] => ⟨[required], true⟩
  | existing :: rest =>
    if existing.uid = required.uid then (Merged.adopt existing required).map (· :: rest)
    else (putOwnerReference required rest).map (existing :: ·)

def mergeOwnerReferences (existing : Option (List OwnerReference))
    (required : List OwnerReference) : Merged (Option (List OwnerReference)) :=
  if required.isEmpty then ⟨existing, false⟩
  else
    let start : Merged (List OwnerReference) := ⟨existing.getD [], false⟩
    (required.foldl (fun merged r => merged.andThen (putOwnerReference r)) start).map some

def mergeMetadata (existing required : ObjectMeta) : Merged ObjectMeta :=
  let namespaceName := mergeText existing.namespaceName required.namespaceName
  let name := mergeText existing.name required.name
  let labels := mergeLabels existing.labels required.labels
  let annotations := mergeLabels existing.annotations required.annotations
  let owners :=
    mergeOwnerReferences existing.ownerReferences (required.ownerReferences.getD [])
  { value := { existing with
      namespaceName := namespaceName.value
      name := name.value
      labels := labels.value
      annotations := annotations.value
      ownerReferences := owners.value }
    changed := namespaceName.changed || name.changed || labels.changed || annotations.changed ||
      owners.changed }

def mergeStatus (existing required : ClusterOperatorStatus) : Merged ClusterOperatorStatus :=
  let conditions := Merged.adopt existing.conditions required.conditions
  let versions := Merged.adopt existing.versions required.versions
  let extension := Merged.adopt existing.extension required.extension
  let relatedObjects := Merged.adopt existing.relatedObjects required.relatedObjects
  { value := ⟨conditions.value, versions.value, relatedObjects.value, extension.value⟩
    changed := conditions.changed || versions.changed || extension.changed ||
      relatedObjects.changed }

def mergeClusterOperator (existing required : ClusterOperator) : Merged ClusterOperator :=
  let metadata := mergeMetadata existing.metadata required.metadata
  let status := mergeStatus (existing.status.getD {}) (required.status.getD {})
  { value := ⟨metadata.value, some status.value⟩
    changed := metadata.changed || status.changed }

end AutoscalerOperator
