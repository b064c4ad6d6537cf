import AutoscalerOperator.Api.Uri
import AutoscalerOperator.Json.Reader

namespace AutoscalerOperator

structure ApiStatus where
  status : String := "Failure"
  message : String := ""
  reason : String := ""
  code : UInt16 := 0
  deriving DecidableEq, Inhabited

inductive Error
  | plain (text : String)
  | context (text : String) (cause : Error)
  | io (text : String)
  | json (problem : DecodeError)
  | yaml (text : String)
  | api (status : ApiStatus)
  | service (text : String)
  | unreadableAnswer (problem : Json.TextProblem)
  | emptyName
  | noTarget (problem : Api.UriError)
  | missingName (kind : String)
  deriving DecidableEq, Inhabited

namespace Error

def message : Error → String
  | .plain text | .context text _ | .io text | .yaml text => text
  | .json problem => problem.message
  | .api s =>
    "ApiError: " ++ s.message ++ ": " ++ s.reason ++ " (ErrorResponse \x7b status: " ++
      Text.quoted s.status ++ ", message: " ++ Text.quoted s.message ++ ", reason: " ++
      Text.quoted s.reason ++ ", code: " ++ toString s.code.toNat ++ " \x7d)"
  | .service text => "ServiceError: " ++ text
  | .unreadableAnswer problem => "Error deserializing response: " ++ problem.message
  | .emptyName =>
    "Failed to build request: failed to validate request: A non-empty name is required"
  | .noTarget problem => "Failed to build request: failed to build request: " ++ problem.message
  | .missingName kind => kind ++ " object has no name"

def cause? : Error → Option Error
  | .context _ cause => some cause
  | _ => none

def description? : Error → Option String
  | .plain text | .context text _ => some text
  | .missingName _ => some "object has no name"
  | _ => none

def api? : Error → Option ApiStatus
  | .api status => some status
  | _ => none

def isNotFound (e : Error) : Bool := e.api?.any fun s => s.code == 404

def isAlreadyExists (e : Error) : Bool :=
  e.api?.any fun s => s.code == 409 && s.reason == "AlreadyExists"

/-- Whether a write came too late: the object has changed since it was read. -/
def isConflict (e : Error) : Bool := e.api?.any fun s => s.code == 409 && s.reason == "Conflict"

end Error

end AutoscalerOperator
