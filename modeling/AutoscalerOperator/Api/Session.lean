import AutoscalerOperator.Api.Definition
import AutoscalerOperator.Api.Recorder
import AutoscalerOperator.Api.Response
import AutoscalerOperator.Json.Render

namespace AutoscalerOperator

open Kubernetes

namespace Api

/-- A client of the API server that is given its answers one by one. -/
structure Session where
  ownNamespace : String := "default"
  responses : List Response := []
  requests : List Request := []
  recorder : Recorder := {}
  clock : Instant

namespace Session

def noResponse : Response where
  status := 500
  text := (Json.obj [
    ("code", .int 500),
    ("message", .str "no response left"),
    ("reason", .str "InternalError"),
    ("status", .str "Failure")]).render

def exchange (s : Session) (request : Request) : Response × Session :=
  (s.responses.headD noResponse,
    { s with responses := s.responses.tail, requests := s.requests ++ [request] })

def send (s : Session) (request : Except Error Request) (α : Type) [OfJson α] :
    Except Error α × Session :=
  match request.bind Request.aimed with
  | .error e => (.error e, s)
  | .ok request =>
    let (response, s) := s.exchange request
    (response.read α, s)

/-- Publishes an event. It counts as recorded only if the server took it. -/
def publish (s : Session) (event : Event) : Except Error Unit × Session :=
  let record := s.recorder.recordOf event s.clock
  match s.send (.ok (s.recorder.request record)) EventAnswer with
  | (.ok _, s) => (.ok (), { s with recorder := s.recorder.keep record })
  | (.error e, s) => (.error e, s)

/-- Answers every call of a program. Time stands still and nobody tells the operator to stop. -/
def handle : Handler Session
  | .get kind namespaceName name, s =>
    s.send (getRequest s.ownNamespace kind namespaceName name) kind.Object
  | .create kind object, s => s.send (.ok (createRequest s.ownNamespace kind object)) kind.Object
  | .replace kind object, s => s.send (replaceRequest s.ownNamespace kind object) kind.Object
  | .replaceStatus kind object, s =>
    s.send (replaceStatusRequest s.ownNamespace kind object) kind.Object
  | .ready, s =>
    let (version, s) := s.send (.ok versionRequest) VersionInfo
    (version.toOption.isSome, s)
  | .publish event, s => s.publish event
  | .now, s => (s.clock, s)
  | .cancelled, s => (false, s)
  | .sleep _, s => ((), s)

def requireDefinition (s : Session) : Except Error Unit × Session :=
  match s.send (.ok definitionRequest) DefinitionAnswer with
  | (.ok _, s) => (.ok (), s)
  | (.error e, s) =>
    (.error (.context ("install the " ++ AutoscalerController.definitionName ++ " crd first") e), s)

end Session

end Api

end AutoscalerOperator
