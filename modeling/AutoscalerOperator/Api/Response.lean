import AutoscalerOperator.Error
import AutoscalerOperator.Kubernetes.Metadata

namespace AutoscalerOperator

open Kubernetes

namespace Api

structure Response where
  status : Nat
  text : String
  deriving DecidableEq, Inhabited

def statusPhrase : Nat → String
  | 400 => "Bad Request"
  | 401 => "Unauthorized"
  | 402 => "Payment Required"
  | 403 => "Forbidden"
  | 404 => "Not Found"
  | 405 => "Method Not Allowed"
  | 406 => "Not Acceptable"
  | 407 => "Proxy Authentication Required"
  | 408 => "Request Timeout"
  | 409 => "Conflict"
  | 410 => "Gone"
  | 411 => "Length Required"
  | 412 => "Precondition Failed"
  | 413 => "Payload Too Large"
  | 414 => "URI Too Long"
  | 415 => "Unsupported Media Type"
  | 416 => "Range Not Satisfiable"
  | 417 => "Expectation Failed"
  | 418 => "I'm a teapot"
  | 421 => "Misdirected Request"
  | 422 => "Unprocessable Entity"
  | 423 => "Locked"
  | 424 => "Failed Dependency"
  | 425 => "Too Early"
  | 426 => "Upgrade Required"
  | 428 => "Precondition Required"
  | 429 => "Too Many Requests"
  | 431 => "Request Header Fields Too Large"
  | 451 => "Unavailable For Legal Reasons"
  | 500 => "Internal Server Error"
  | 501 => "Not Implemented"
  | 502 => "Bad Gateway"
  | 503 => "Service Unavailable"
  | 504 => "Gateway Timeout"
  | 505 => "HTTP Version Not Supported"
  | 506 => "Variant Also Negotiates"
  | 507 => "Insufficient Storage"
  | 508 => "Loop Detected"
  | 510 => "Not Extended"
  | 511 => "Network Authentication Required"
  | _ => "<unknown status code>"

def nestingLimit : Nat := 127

instance : OfJson ApiStatus := ⟨.record "ErrorResponse" {} [
  .required "status" fun r v => { r with status := v },
  .defaulted "message" fun r v => { r with message := v },
  .defaulted "reason" fun r v => { r with reason := v },
  .required "code" fun r v => { r with code := v }]⟩

def Response.decode (r : Response) (α : Type) [OfJson α] : Except Json.TextProblem α :=
  Json.decodeText α nestingLimit r.text

/-- What the server says of an error: in its own form, or else the text as it stands. -/
def Response.error (r : Response) : ApiStatus :=
  (r.decode ApiStatus).toOption.getD {
    status := toString r.status ++ " " ++ statusPhrase r.status
    message := Text.quoted r.text
    reason := "Failed to parse error data"
    code := UInt16.ofNat r.status }

def Response.isError (r : Response) : Bool := 400 ≤ r.status && r.status < 600

def Response.read (r : Response) (α : Type) [OfJson α] : Except Error α :=
  if r.isError then .error (.api r.error)
  else (r.decode α).mapError .unreadableAnswer

structure VersionInfo where
  gitVersion : String := ""
  deriving DecidableEq, Inhabited

instance : OfJson VersionInfo :=
  let text : Decoder String := OfJson.decoder
  ⟨.object "Info" {} <|
    .lenient "gitVersion" "" (fun r v => { r with gitVersion := v }) ::
      ["buildDate", "compiler", "gitCommit", "gitTreeState", "goVersion", "major", "minor",
        "platform"].map (.checked text)⟩

end Api

end AutoscalerOperator
