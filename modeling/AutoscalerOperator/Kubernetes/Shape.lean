import AutoscalerOperator.Json.Record
import AutoscalerOperator.Quantity

namespace AutoscalerOperator.Kubernetes

inductive IntOrString
  | int (value : Int32)
  | string (value : String)
  deriving DecidableEq

instance : ToJson IntOrString where
  toJson
    | .int value => toJson value
    | .string value => toJson value

instance : OfJson IntOrString :=
  let ofJson (json : Json) : Decoded IntOrString :=
    match json with
    | .int n =>
      if Int32.minValue.toInt ≤ n ∧ n ≤ Int32.maxValue.toInt then .ok (.int (Int32.ofInt n))
      else .error (.wrongValue (.integer n) "a 32-bit integer")
    | .str text => .ok (.string text)
    | json => json.mismatch "IntOrString"
  ⟨.either ofJson none none⟩

/-- What the API knows of a part of an object that the operator only carries along. -/
inductive Shape
  | text
  | flag
  | int32
  | int64
  | intOrString
  | quantity
  | time
  | document
  | list (items : Shape)
  | map (values : Shape)
  | record (type : String) (needed free : List (String × Shape))

namespace Shape

mutual

def blank : Shape → Json
  | .text | .quantity => .str ""
  | .flag => .bool false
  | .int32 | .int64 | .intOrString => .int 0
  | .time => toJson (default : Instant)
  | .list _ => .arr []
  | .document | .map _ => .obj []
  | .record _ needed _ => .obj (completed needed .empty).entries

def completed : (needed : List (String × Shape)) → SortedMap Json → SortedMap Json
  | [], members => members
  | (key, shape) :: needed, members =>
    completed needed (if members.contains key then members else members.insert key shape.blank)

end

/-- Reads a value and keeps it as it is written. -/
def rewritten (α : Type) [ToJson α] [OfJson α] : Decoder Json :=
  toJson <$> (OfJson.decoder : Decoder α)

def member (key : String) (decoder : Decoder Json) : Field (SortedMap Json) where
  key
  value := (fun json? members =>
    match json? with
    | some json => members.insert key json
    | none => members.erase key) <$> decoder.optional

mutual

def decoder : Shape → Decoder Json
  | .text => rewritten String
  | .flag => rewritten Bool
  | .int32 => rewritten Int32
  | .int64 => rewritten Int64
  | .intOrString => rewritten IntOrString
  | .quantity => rewritten Quantity
  | .time => rewritten Instant
  | .document => (OfJson.decoder : Decoder Json).check fun json =>
    if json = .null then json.mismatch "a value" else .ok json
  | .list items => .arr <$> items.decoder.list
  | .map values => (fun map => .obj map.entries) <$> values.decoder.sortedMap
  | .record type needed free =>
    (fun members => .obj (completed needed members).entries) <$>
      .object type .empty (members needed ++ members free)

def members : List (String × Shape) → List (Field (SortedMap Json))
  | [] => []
  | (key, shape) :: rest => member key shape.decoder :: members rest

end

end Shape

/-- A part of an object as it is written once it was read. -/
structure Carried (shape : Shape) where
  document : Json
  read : ∃ source, shape.decoder.ofJson source = .ok document
  deriving DecidableEq

def Shape.carry (shape : Shape) (json : Json) : Decoded (Carried shape) :=
  match read : shape.decoder.ofJson json with
  | .ok kept => .ok ⟨kept, json, read⟩
  | .error error => .error error

instance (shape : Shape) : ToJson (Carried shape) := ⟨(·.document)⟩

instance (shape : Shape) : OfJson (Carried shape) where
  decoder := {
    ofJson := shape.carry
    reader := fun depth => do
      Json.Reading.ofDecoded (shape.carry (← shape.decoder.reader depth)) }

end AutoscalerOperator.Kubernetes
