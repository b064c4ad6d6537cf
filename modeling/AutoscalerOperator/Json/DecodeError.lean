import AutoscalerOperator.Double.Shortest
import AutoscalerOperator.Instant.Reader
import AutoscalerOperator.Json.Basic
import AutoscalerOperator.Json.TextPlace
import AutoscalerOperator.Text.Base64
import AutoscalerOperator.Text.Quoted

namespace AutoscalerOperator

inductive Found
  | null
  | bool (value : Bool)
  | integer (value : Int)
  | float (value : Double)
  | text (value : String)
  | sequence
  | map
  deriving DecidableEq

namespace Found

def ofJson : Json → Found
  | .null => .null
  | .bool value => .bool value
  | .int value => .integer value
  | .float value => .float value
  | .str value => .text value
  | .arr _ => .sequence
  | .obj _ => .map

def describe : Found → String
  | .null => "null"
  | .bool value => "boolean `" ++ (if value then "true" else "false") ++ "`"
  | .integer value => "integer `" ++ toString value ++ "`"
  | .float value => "floating point `" ++ value.toJsonText ++ "`"
  | .text value => "string " ++ Text.quoted value
  | .sequence => "sequence"
  | .map => "map"

end Found

inductive DecodeError
  | wrongType (found : Found) (wanted : String)
  | wrongValue (found : Found) (wanted : String)
  | wrongLength (length : Nat) (wanted : String)
  | missingField (name : String)
  | duplicateField (name : String)
  | unknownVariant (name : String) (variants : List String)
  | noVariant (type : String)
  | instant (problem : InstantError)
  | base64 (problem : Text.Base64Error)
  | told (text : String) (place : Option TextPlace)
  deriving DecidableEq

namespace DecodeError

def message : DecodeError → String
  | .wrongType found wanted => "invalid type: " ++ found.describe ++ ", expected " ++ wanted
  | .wrongValue found wanted => "invalid value: " ++ found.describe ++ ", expected " ++ wanted
  | .wrongLength length wanted => "invalid length " ++ toString length ++ ", expected " ++ wanted
  | .missingField name => "missing field `" ++ name ++ "`"
  | .duplicateField name => "duplicate field `" ++ name ++ "`"
  | .unknownVariant name variants =>
    "unknown variant `" ++ name ++ "`, expected one of " ++
      String.intercalate ", " (variants.map fun variant => "`" ++ variant ++ "`")
  | .noVariant type => "data did not match any variant of untagged enum " ++ type
  | .instant problem => problem.message
  | .base64 problem => problem.message
  | .told text place => text ++ (place.map TextPlace.note).getD ""

/-- The error that a message tells of. A place at the end of the message is that of the error. -/
def ofMessage (message : String) : DecodeError :=
  match TextPlace.split? message.toList with
  | some (text, place) => .told (String.ofList text) (some place)
  | none => .told message none

end DecodeError

abbrev Decoded (α : Type) := Except DecodeError α

namespace Json

variable {α : Type}

def mismatch (json : Json) (wanted : String) : Decoded α :=
  .error (.wrongType (.ofJson json) wanted)

end Json

end AutoscalerOperator
