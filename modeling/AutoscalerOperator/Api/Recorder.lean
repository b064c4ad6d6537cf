import AutoscalerOperator.Api.Request
import AutoscalerOperator.Program

namespace AutoscalerOperator

open Kubernetes

namespace Api

def reportingController : String := "vertical-pod-autoscaler-controller"

structure EventRecord where
  name : String
  first : Event
  firstTime : Instant
  count : Nat := 1
  lastTime : Instant
  deriving DecidableEq

namespace EventRecord

/-- Whether an event is one more of the same kind: only the note may be another. -/
def IsLike (r : EventRecord) (event : Event) : Prop := { event with note := r.first.note } = r.first

instance (r : EventRecord) (event : Event) : Decidable (r.IsLike event) :=
  inferInstanceAs (Decidable (_ = _))

def seriesJson? (r : EventRecord) : Option Json :=
  if r.count < 2 then none
  else some (.obj [
    ("count", .int r.count),
    ("lastObservedTime", .str r.lastTime.toMicrosecondText)])

def json (r : EventRecord) (reportingInstance : String) : Json := .record [
  ("action", some (.str "Reconcile")),
  ("apiVersion", some (.str "events.k8s.io/v1")),
  ("eventTime", some (.str r.firstTime.toMicrosecondText)),
  ("kind", some (.str "Event")),
  ("metadata", some (.record [
    ("name", some (.str r.name)),
    ("namespace", r.first.regarding.namespaceName.map .str)])),
  ("note", some (.str r.first.note)),
  ("reason", some (.str r.first.reason)),
  ("regarding", some (toJson r.first.regarding)),
  ("reportingController", some (.str reportingController)),
  ("reportingInstance", some (.str reportingInstance)),
  ("series", r.seriesJson?),
  ("type", some (.str (if r.first.isWarning then "Warning" else "Normal")))]

end EventRecord

structure Recorder where
  podName : Option String := none
  records : List EventRecord := []

namespace Recorder

def reportingInstance (recorder : Recorder) : String := recorder.podName.getD reportingController

def recordOf (recorder : Recorder) (event : Event) (now : Instant) : EventRecord :=
  match recorder.records.find? fun r => decide (r.IsLike event) with
  | some r => { r with count := r.count + 1, lastTime := now }
  | none => {
      name := event.regarding.name.getD reportingController ++ "." ++
        String.ofList (Nat.toDigits 16 (now.seconds * 1000000000).toNat)
      first := event
      firstTime := now
      lastTime := now }

def eventsPath (event : Event) : String :=
  resourcePath "events.k8s.io/v1" (some (event.regarding.namespaceName.getD "default")) "events"

def request (recorder : Recorder) (r : EventRecord) : Request :=
  let body := r.json recorder.reportingInstance
  if r.count < 2 then .post (eventsPath r.first) body
  else .mergePatch (eventsPath r.first ++ "/" ++ r.name) body

def keep (recorder : Recorder) (r : EventRecord) : Recorder :=
  { recorder with
    records := r :: recorder.records.filter fun other => !decide (other.IsLike r.first) }

end Recorder

structure EventAnswer where
  metadata : ObjectMeta := {}

instance : OfJson EventAnswer :=
  let text : Decoder String := OfJson.decoder
  let number : Decoder Int32 := OfJson.decoder
  let time : Decoder Instant := OfJson.decoder
  let reference : Decoder ObjectReference := OfJson.decoder
  let source : Decoder Unit :=
    .object "EventSource" () [.checked text "component", .checked text "host"]
  let series : Decoder Unit :=
    .object "EventSeries" () [.checked number "count", .checked time "lastObservedTime"]
  ⟨.object "Event" {} [
    .checked text "action",
    .fixed "apiVersion" "events.k8s.io/v1",
    .checked number "deprecatedCount",
    .checked time "deprecatedFirstTimestamp",
    .checked time "deprecatedLastTimestamp",
    .checked source "deprecatedSource",
    .checked time "eventTime",
    .fixed "kind" "Event",
    .lenient "metadata" {} fun r v => { r with metadata := v },
    .checked text "note",
    .checked text "reason",
    .checked reference "regarding",
    .checked reference "related",
    .checked text "reportingController",
    .checked text "reportingInstance",
    .checked series "series",
    .checked text "type"]⟩

end Api

end AutoscalerOperator
