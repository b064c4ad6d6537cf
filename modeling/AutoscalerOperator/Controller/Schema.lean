import AutoscalerOperator.Json.Coding

namespace AutoscalerOperator

inductive Schema
  | string
  | boolean
  | int64
  | double
  | array (items : Schema)
  | map (values : Schema)
  | object (properties : List (String × Schema)) (required : List String)
  | nullable (schema : Schema)
  | atLeast (minimum : Nat) (schema : Schema)
  | withDefault (value : Json) (schema : Schema)
  | titled (title : String) (schema : Schema)

namespace Schema

def typed (type : String) : List (String × Json) := [("type", .str type)]

def formatted (type format : String) : List (String × Json) :=
  [("format", .str format), ("type", .str type)]

mutual

def members : Schema → List (String × Json)
  | .string => typed "string"
  | .boolean => typed "boolean"
  | .int64 => formatted "integer" "int64"
  | .double => formatted "number" "double"
  | .array items => ("items", .obj items.members) :: typed "array"
  | .map values => ("additionalProperties", .obj values.members) :: typed "object"
  | .object properties required =>
    (if properties.isEmpty then [] else [("properties", .obj (propertyMembers properties))]) ++
      (if required.isEmpty then [] else [("required", toJson required)]) ++ typed "object"
  | .nullable schema => Entries.insert "nullable" (.bool true) schema.members
  | .atLeast minimum schema =>
    let minimum := (Double.ofInt? minimum).getD (.zero false)
    Entries.insert "minimum" (.float minimum) schema.members
  | .withDefault value schema => Entries.insert "default" value schema.members
  | .titled title schema => Entries.insert "title" (.str title) schema.members

def propertyMembers : List (String × Schema) → List (String × Json)
  | [] => []
  | (name, schema) :: rest => (name, .obj schema.members) :: propertyMembers rest

end

instance : ToJson Schema := ⟨fun schema => .obj schema.members⟩

end Schema

end AutoscalerOperator
