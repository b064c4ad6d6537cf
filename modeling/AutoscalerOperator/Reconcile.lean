import AutoscalerOperator.Managed.Converge
import AutoscalerOperator.Managed.Desired
import AutoscalerOperator.Program

namespace AutoscalerOperator

open Kubernetes Program

inductive Outcome
  | created
  | updated
  | unchanged
  deriving DecidableEq, Inhabited

inductive Stage
  | get
  | create
  | update
  deriving DecidableEq, Inhabited

structure Failure where
  stage : Stage
  error : Error
  deriving DecidableEq, Inhabited

/-- A desired object as it is created: controlled by its owner, if the owner can be named. -/
def ownedBy (owner : AutoscalerController) (kind : Kind) (desired : kind.Object) : kind.Object :=
  match owner.ownerReference? with
  | some reference =>
    kind.withMetadata desired { kind.metadata desired with ownerReferences := some [reference] }
  | none => desired

/-- Creates an object that does not exist, or else updates the fields that the operator owns if any
    of them differs. -/
def reconcileObject (owner : AutoscalerController) (managed : ManagedKind)
    (desired : managed.Object) : Program (Except Failure Outcome) := do
  let kind := managed.kind
  let metadata := kind.metadata desired
  match ← ask (.get kind metadata.namespaceName metadata.nameOrGenerated) with
  | .ok current =>
    let converged := managed.converge current desired
    if converged.changed then
      match ← ask (.replace kind converged.value) with
      | .ok _ => return .ok .updated
      | .error e => return .error ⟨.update, e⟩
    else return .ok .unchanged
  | .error e =>
    if e.isNotFound then
      match ← ask (.create kind (ownedBy owner kind desired)) with
      | .ok _ => return .ok .created
      | .error e => return .error ⟨.create, e⟩
    else return .error ⟨.get, e⟩

def eventReference (owner : AutoscalerController) (config : Config) : ObjectReference :=
  if owner.metadata.namespaceName.getD "" = "" then
    { owner.reference with namespaceName := some config.operandNamespace }
  else owner.reference

def outcomeEvent? (regarding : ObjectReference) (managed : ManagedKind) (name : String) :
    Except Failure Outcome → Option Event
  | .ok .created => some {
      regarding, isWarning := false, reason := "SuccessfulCreate"
      note := "Created " ++ AutoscalerController.kindName ++ " " ++ managed.label ++ ": " ++ name }
  | .ok .updated => some {
      regarding, isWarning := false, reason := "SuccessfulUpdate"
      note := "Updated " ++ AutoscalerController.kindName ++ " " ++ managed.label ++ ": " ++ name }
  | .ok .unchanged => none
  | .error ⟨.get, e⟩ => some {
      regarding, isWarning := true, reason := managed.getFailureReason
      note := "Error getting vertical-pod-autoscaler " ++ managed.label ++ " " ++ name ++ ": " ++
        e.message }
  | .error ⟨.create, e⟩ => some {
      regarding, isWarning := true, reason := "FailedCreate"
      note := "Error creating " ++ AutoscalerController.kindName ++ " " ++ managed.label ++ ": " ++
        e.message }
  | .error ⟨.update, e⟩ => some {
      regarding, isWarning := true, reason := "FailedUpdate"
      note := "Error updating vertical-pod-autoscaler " ++ managed.label ++ " " ++ name ++ ": " ++
        e.message }

/-- Publishes an event. That it fails is of no consequence. -/
def publish : Option Event → Program Unit
  | some event => do let _ ← ask (.publish event)
  | none => return ()

def reconcileAndTell (owner : AutoscalerController) (config : Config) (desired : ManagedObject) :
    Program (Except Error Unit) := do
  let name := (desired.managed.kind.metadata desired.object).nameOrGenerated
  let result ← reconcileObject owner desired.managed desired.object
  publish (outcomeEvent? (eventReference owner config) desired.managed name result)
  return (result.map fun _ => ()).mapError (·.error)

def reconcileAll (owner : AutoscalerController) (config : Config) :
    List ManagedObject → Program (Except Error Unit)
  | [] => return .ok ()
  | desired :: rest => do
    match ← reconcileAndTell owner config desired with
    | .ok _ => reconcileAll owner config rest
    | .error e => return .error e

/-- One pass over all that the named instance owns. Only the configured name is acted on, and an
    instance that does not exist owns nothing. -/
def reconcile (config : Config) (namespaceName name : String) : Program (Except Error Unit) := do
  if name = config.name then
    match ← ask (.get .controller (some namespaceName) name) with
    | .ok owner => reconcileAll owner config (desiredObjects owner config)
    | .error e => if e.isNotFound then return .ok () else return .error e
  else return .ok ()

end AutoscalerOperator
