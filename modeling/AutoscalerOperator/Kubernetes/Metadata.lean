import AutoscalerOperator.Kubernetes.Shape

namespace AutoscalerOperator.Kubernetes

abbrev Labels := SortedMap String

namespace Shape

def managedFieldsEntry : Shape := .record "ManagedFieldsEntry" [] [
  ("apiVersion", .text),
  ("fieldsType", .text),
  ("fieldsV1", .document),
  ("manager", .text),
  ("operation", .text),
  ("subresource", .text),
  ("time", .time)]

def labelSelectorRequirement : Shape := .record "LabelSelectorRequirement"
  [("key", .text), ("operator", .text)]
  [("values", .list .text)]

def labelSelector : Shape := .record "LabelSelector" [] [
  ("matchExpressions", .list labelSelectorRequirement),
  ("matchLabels", .map .text)]

end Shape

structure OwnerReference where
  apiVersion : String := ""
  blockOwnerDeletion : Option Bool := none
  controller : Option Bool := none
  kind : String := ""
  name : String := ""
  uid : String := ""
  deriving DecidableEq, Inhabited

instance : ToJson OwnerReference where
  toJson r := .record [
    ("apiVersion", some (toJson r.apiVersion)),
    ("blockOwnerDeletion", r.blockOwnerDeletion.map toJson),
    ("controller", r.controller.map toJson),
    ("kind", some (toJson r.kind)),
    ("name", some (toJson r.name)),
    ("uid", some (toJson r.uid))]

instance : OfJson OwnerReference := ⟨.object "OwnerReference" {} [
  .lenient "apiVersion" "" fun r v => { r with apiVersion := v },
  .optional "blockOwnerDeletion" fun r v => { r with blockOwnerDeletion := v },
  .optional "controller" fun r v => { r with controller := v },
  .lenient "kind" "" fun r v => { r with kind := v },
  .lenient "name" "" fun r v => { r with name := v },
  .lenient "uid" "" fun r v => { r with uid := v }]⟩

structure ObjectMeta where
  annotations : Option Labels := none
  creationTimestamp : Option Instant := none
  deletionGracePeriodSeconds : Option Int64 := none
  deletionTimestamp : Option Instant := none
  finalizers : Option (List String) := none
  generateName : Option String := none
  generation : Option Int64 := none
  labels : Option Labels := none
  managedFields : Option (Carried (.list .managedFieldsEntry)) := none
  name : Option String := none
  namespaceName : Option String := none
  ownerReferences : Option (List OwnerReference) := none
  resourceVersion : Option String := none
  selfLink : Option String := none
  uid : Option String := none
  deriving DecidableEq, Inhabited

instance : ToJson ObjectMeta where
  toJson r := .record [
    ("annotations", r.annotations.map toJson),
    ("creationTimestamp", r.creationTimestamp.map toJson),
    ("deletionGracePeriodSeconds", r.deletionGracePeriodSeconds.map toJson),
    ("deletionTimestamp", r.deletionTimestamp.map toJson),
    ("finalizers", r.finalizers.map toJson),
    ("generateName", r.generateName.map toJson),
    ("generation", r.generation.map toJson),
    ("labels", r.labels.map toJson),
    ("managedFields", r.managedFields.map toJson),
    ("name", r.name.map toJson),
    ("namespace", r.namespaceName.map toJson),
    ("ownerReferences", r.ownerReferences.map toJson),
    ("resourceVersion", r.resourceVersion.map toJson),
    ("selfLink", r.selfLink.map toJson),
    ("uid", r.uid.map toJson)]

instance : OfJson ObjectMeta := ⟨.object "ObjectMeta" {} [
  .optional "annotations" fun r v => { r with annotations := v },
  .optional "creationTimestamp" fun r v => { r with creationTimestamp := v },
  .optional "deletionGracePeriodSeconds" fun r v => { r with deletionGracePeriodSeconds := v },
  .optional "deletionTimestamp" fun r v => { r with deletionTimestamp := v },
  .optional "finalizers" fun r v => { r with finalizers := v },
  .optional "generateName" fun r v => { r with generateName := v },
  .optional "generation" fun r v => { r with generation := v },
  .optional "labels" fun r v => { r with labels := v },
  .optional "managedFields" fun r v => { r with managedFields := v },
  .optional "name" fun r v => { r with name := v },
  .optional "namespace" fun r v => { r with namespaceName := v },
  .optional "ownerReferences" fun r v => { r with ownerReferences := v },
  .optional "resourceVersion" fun r v => { r with resourceVersion := v },
  .optional "selfLink" fun r v => { r with selfLink := v },
  .optional "uid" fun r v => { r with uid := v }]⟩

namespace ObjectMeta

def annotation? (m : ObjectMeta) (key : String) : Option String :=
  m.annotations.bind (·.get? key)

def annotate (m : ObjectMeta) (key value : String) : ObjectMeta :=
  { m with annotations := some ((m.annotations.getD .empty).insert key value) }

def nameOrGenerated (m : ObjectMeta) : String := (m.name.or m.generateName).getD ""

end ObjectMeta

structure LabelSelector where
  matchExpressions : Option (Carried (.list .labelSelectorRequirement)) := none
  matchLabels : Option Labels := none
  deriving DecidableEq, Inhabited

instance : ToJson LabelSelector where
  toJson r := .record [
    ("matchExpressions", r.matchExpressions.map toJson),
    ("matchLabels", r.matchLabels.map toJson)]

instance : OfJson LabelSelector := ⟨.object "LabelSelector" {} [
  .optional "matchExpressions" fun r v => { r with matchExpressions := v },
  .optional "matchLabels" fun r v => { r with matchLabels := v }]⟩

structure ObjectReference where
  apiVersion : Option String := none
  fieldPath : Option String := none
  kind : Option String := none
  name : Option String := none
  namespaceName : Option String := none
  resourceVersion : Option String := none
  uid : Option String := none
  deriving DecidableEq, Inhabited

instance : ToJson ObjectReference where
  toJson r := .record [
    ("apiVersion", r.apiVersion.map toJson),
    ("fieldPath", r.fieldPath.map toJson),
    ("kind", r.kind.map toJson),
    ("name", r.name.map toJson),
    ("namespace", r.namespaceName.map toJson),
    ("resourceVersion", r.resourceVersion.map toJson),
    ("uid", r.uid.map toJson)]

instance : OfJson ObjectReference := ⟨.object "ObjectReference" {} [
  .optional "apiVersion" fun r v => { r with apiVersion := v },
  .optional "fieldPath" fun r v => { r with fieldPath := v },
  .optional "kind" fun r v => { r with kind := v },
  .optional "name" fun r v => { r with name := v },
  .optional "namespace" fun r v => { r with namespaceName := v },
  .optional "resourceVersion" fun r v => { r with resourceVersion := v },
  .optional "uid" fun r v => { r with uid := v }]⟩

end AutoscalerOperator.Kubernetes
