import AutoscalerOperator.Json.Record

namespace AutoscalerOperator

namespace Api

/-! A schema in the definition of a kind, as the server answers with it. Only that it can be read is
of interest. -/

namespace SchemaAnswer

open Json Reading

def text : Decoder String := OfJson.decoder

def flag : Decoder Bool := OfJson.decoder

def texts : Decoder (List String) := OfJson.decoder

def externalDocs : Decoder Unit :=
  .object "ExternalDocumentation" () (["description", "url"].map (.checked text))

def rule : Decoder Unit :=
  .object "ValidationRule" () <|
    .checked flag "optionalOldSelf" ::
      ["fieldPath", "message", "messageExpression", "reason", "rule"].map (.checked text)

def plainFields : List (Field Unit) :=
  ["$ref", "$schema", "description", "format", "id", "pattern", "title", "type",
    "x-kubernetes-list-type", "x-kubernetes-map-type"].map (.checked text) ++
  ["exclusiveMaximum", "exclusiveMinimum", "nullable", "uniqueItems",
    "x-kubernetes-embedded-resource", "x-kubernetes-int-or-string",
    "x-kubernetes-preserve-unknown-fields"].map (.checked flag) ++
  ["maxItems", "maxLength", "maxProperties", "minItems", "minLength", "minProperties"].map
    (.checked (OfJson.decoder : Decoder Int64)) ++
  ["maximum", "minimum", "multipleOf"].map (.checked (OfJson.decoder : Decoder Double)) ++
  ["default", "example"].map (.checked (OfJson.decoder : Decoder Json)) ++
  ["required", "x-kubernetes-list-map-keys"].map (.checked texts) ++ [
    .checked (OfJson.decoder : Decoder (List Json)) "enum",
    .checked externalDocs "externalDocs",
    .checked rule.list "x-kubernetes-validations"]

def orElse (fields : List (Field Unit)) (array : Option (TextReader Unit))
    (ofJson : Json → Decoded Unit) : Decoder Unit :=
  .either ofJson array (some (Decoder.objectBody () fields))

def orBool (fields : List (Field Unit)) : Decoder Unit :=
  orElse fields none fun
    | .bool _ | .obj _ => .ok ()
    | json => json.mismatch "JSONSchemaPropsOrBool"

def orArray {α : Type} (fields : List (Field Unit)) (name : String) (item : Decoder α) :
    Decoder Unit :=
  orElse fields (some fun depth => discard (items (item.reader depth))) fun
    | .arr _ | .obj _ => .ok ()
    | json => json.mismatch name

/-- The fields of a schema in which schemas are nested at most so deep. -/
def fields : (depth : Nat) → List (Field Unit)
  | 0 => plainFields
  | depth + 1 =>
    let inner := fields depth
    let schema : Decoder Unit := .object "JSONSchemaProps" () inner
    plainFields ++
      ["definitions", "patternProperties", "properties"].map (.checked schema.sortedMap) ++
      ["allOf", "anyOf", "oneOf"].map (.checked schema.list) ++
      ["additionalItems", "additionalProperties"].map (.checked (orBool inner)) ++ [
        .checked (orArray inner "JSONSchemaPropsOrStringArray" text).sortedMap "dependencies",
        .checked (orArray inner "JSONSchemaPropsOrArray" schema) "items",
        .checked schema "not"]

end SchemaAnswer

def schemaAnswer (nestingLimit : Nat) : Decoder Unit :=
  .object "JSONSchemaProps" () (SchemaAnswer.fields nestingLimit)

end Api

end AutoscalerOperator
