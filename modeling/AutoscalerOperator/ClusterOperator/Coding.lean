import AutoscalerOperator.ClusterOperator.Basic

namespace AutoscalerOperator

open Kubernetes

instance : ToJson ConditionType := ⟨fun type => .str type.name⟩

/-- A name, or one of the known names as the only member of an object. -/
def ConditionType.ofJson : Json → Decoded ConditionType
  | .str name => .ok (.ofName name)
  | .obj [(name, .null)] =>
    match ConditionType.ofKnown? name with
    | some type => .ok type
    | none => .error (.noVariant "ConditionType")
  | _ => .error (.noVariant "ConditionType")

instance : OfJson ConditionType :=
  ⟨({ ofJson := .ok, reader := Json.Reading.plainDocument } : Decoder Json).check
    ConditionType.ofJson⟩

instance : ToJson ConditionStatus := ⟨fun status => .str status.name⟩

def ConditionStatus.ofVariant (name : String) : Decoded ConditionStatus :=
  match ConditionStatus.ofName? name with
  | some status => .ok status
  | none => .error (.unknownVariant name ["True", "False", "Unknown"])

def ConditionStatus.ofJson : Json → Decoded ConditionStatus
  | .str name => ConditionStatus.ofVariant name
  | .obj [(name, json)] => do
    let status ← ConditionStatus.ofVariant name
    if json = .null then return status else json.mismatch "unit"
  | .obj _ => .error (.wrongValue .map "map with a single key")
  | json => json.mismatch "string or map"

section

open Json Reading

def ConditionStatus.readVariant : Reading ConditionStatus := settled do
  match ← ahead? with
  | some '"' => do
    pass
    ofDecoded (ConditionStatus.ofVariant (← text))
  | _ => Reading.mismatch "variant identifier"

/-- A status in a text. In an object the name may be any value but must be known, and nothing may
    follow the null that it stands before. -/
def ConditionStatus.reader : TextReader ConditionStatus := fun depth => do
  match ← ahead? with
  | some '"' => ConditionStatus.readVariant
  | some '\x7b' =>
    let status ← match depth with
      | 0 => failNext .tooDeep
      | _ + 1 => do
        pass
        let status ← ConditionStatus.readVariant
        colon
        if (← ahead?) = some 'n' then discard Reading.simple else Reading.mismatch "unit"
        pure status
    match ← ahead? with
    | some '\x7d' => do
      pass
      return status
    | some _ => fail .noValue
    | none => fail .objectEnds
  | some _ => failNext .noValue
  | none => failNext .valueEnds

end

instance : OfJson ConditionStatus := ⟨⟨ConditionStatus.ofJson, ConditionStatus.reader⟩⟩

def Json.unlessBlank (text : String) : Option Json := if text = "" then none else some (.str text)

instance : ToJson Condition where
  toJson c := .record [
    ("lastTransitionTime", c.lastTransitionTime.map toJson),
    ("message", Json.unlessBlank c.message),
    ("reason", Json.unlessBlank c.reason),
    ("status", some (toJson c.status)),
    ("type", some (toJson c.type))]

@[simp] theorem Condition.toJson_recognized (c : Condition) : toJson c.recognized = toJson c := by
  have type : toJson c.recognized.type = toJson c.type := congrArg Json.str c.type.name_recognized
  simp only [toJson] at type ⊢
  rw [type]
  rfl

instance : OfJson Condition := ⟨.record "ClusterOperatorStatusCondition" default [
  .required "type" fun r v => { r with type := v },
  .required "status" fun r v => { r with status := v },
  .optional "lastTransitionTime" fun r v => { r with lastTransitionTime := v },
  .defaulted "reason" fun r v => { r with reason := v },
  .defaulted "message" fun r v => { r with message := v }]⟩

instance : ToJson OperandVersion where
  toJson v := .record [
    ("name", some (.str v.name)),
    ("version", some (.str v.version))]

instance : OfJson OperandVersion := ⟨.record "OperandVersion" default [
  .required "name" fun r v => { r with name := v },
  .required "version" fun r v => { r with version := v }]⟩

instance : ToJson RelatedObject where
  toJson o := .record [
    ("group", some (.str o.group)),
    ("name", some (.str o.name)),
    ("namespace", Json.unlessBlank o.namespaceName),
    ("resource", some (.str o.resource))]

instance : OfJson RelatedObject := ⟨.record "ObjectReference" default [
  .defaulted "group" fun r v => { r with group := v },
  .required "resource" fun r v => { r with resource := v },
  .defaulted "namespace" fun r v => { r with namespaceName := v },
  .required "name" fun r v => { r with name := v }]⟩

instance : ToJson ClusterOperatorStatus where
  toJson s := .record [
    ("conditions", Json.unlessEmpty s.conditions),
    ("extension", s.extension),
    ("relatedObjects", Json.unlessEmpty s.relatedObjects),
    ("versions", s.versions.map toJson)]

@[simp] theorem ClusterOperatorStatus.toJson_recognized (s : ClusterOperatorStatus) :
    toJson s.recognized = toJson s := by
  have conditions : Json.unlessEmpty s.recognized.conditions = Json.unlessEmpty s.conditions := by
    cases held : s.conditions with
    | nil => simp [recognized, held, Json.unlessEmpty]
    | cons c rest =>
      have same : toJson s.recognized.conditions = toJson s.conditions := by
        change Json.arr ((s.conditions.map Condition.recognized).map toJson) = .arr _
        rw [List.map_map]
        exact congrArg Json.arr (List.map_congr_left fun c _ => c.toJson_recognized)
      simpa [recognized, held, Json.unlessEmpty] using same
  simp only [toJson]
  rw [conditions]
  rfl

instance : OfJson ClusterOperatorStatus := ⟨.record "ClusterOperatorStatus" {} [
  .defaulted "conditions" fun r v => { r with conditions := v },
  .optional "versions" fun r v => { r with versions := v },
  .defaulted "relatedObjects" fun r v => { r with relatedObjects := v },
  .optional "extension" fun r v => { r with extension := v }]⟩

def ClusterOperator.specDecoder : Decoder Unit := .record "ClusterOperatorSpec" () []

instance : ToJson ClusterOperator where
  toJson o := .record [
    ("apiVersion", some (.str ClusterOperator.apiVersion)),
    ("kind", some (.str ClusterOperator.kindName)),
    ("metadata", some (toJson o.metadata)),
    ("spec", some (.obj [])),
    ("status", o.status.map toJson)]

@[simp] theorem ClusterOperator.toJson_recognized (o : ClusterOperator) :
    toJson o.recognized = toJson o := by
  have status : o.recognized.status.map toJson = o.status.map toJson := by
    cases held : o.status <;> simp [recognized, held]
  simp only [toJson] at status ⊢
  rw [status]
  rfl

instance : OfJson ClusterOperator := ⟨.record ClusterOperator.kindName {} [
  .required "metadata" fun r v => { r with metadata := v },
  { key := "spec", presence := .always, value := (fun _ => id) <$> ClusterOperator.specDecoder },
  .put .inArrays "status" fun r v => { r with status := v }]⟩

end AutoscalerOperator
