import AutoscalerOperator.Config
import AutoscalerOperator.Program

namespace AutoscalerOperator

open Kubernetes Program

/-- Says, on the watched namespace, that the default instance has been created once, so that its
    deletion sticks. -/
def createdDefaultAnnotation : String :=
  "vertical-pod-autoscaler-controller/created-default-controller"

def markCreated : Option Namespace → Program (Except Error Unit)
  | none => return .ok ()
  | some space => do
    let marked : Namespace :=
      { space with metadata := space.metadata.annotate createdDefaultAnnotation "true" }
    match ← ask (.replace .ns marked) with
    | .ok _ => return .ok ()
    | .error e => return .error e

def isMarked (space : Namespace) : Bool :=
  (space.metadata.annotation? createdDefaultAnnotation).isSome

/-- Creates the default instance and marks the watched namespace. That another one creates it at the
    same time is no failure. -/
def createDefault (config : Config) (watched : Option Namespace) : Program (Except Error Unit) := do
  let object := AutoscalerController.defaultInstance config.name config.watchNamespace
  match ← ask (.create .controller object) with
  | .ok _ => markCreated watched
  | .error e => if e.isAlreadyExists then markCreated watched else return .error e

/-- Creates the default instance if there is none and none was created before. A namespace that
    cannot be read counts as unmarked. -/
def healOnce (config : Config) : Program (Except Error Unit) := do
  match ← ask (.get .controller (some config.watchNamespace) config.name) with
  | .ok _ => return .ok ()
  | .error e =>
    if e.isNotFound then
      let watched := (← ask (.get .ns none config.watchNamespace)).toOption
      if watched.any isMarked then return .ok () else createDefault config watched
    else return .error e

/-- Waits for the API, up to a number of attempts, and then heals once, whatever comes of it. -/
def healWithin (config : Config) (interval : Nat) : (attempts : Nat) → Program Unit
  | 0 => return ()
  | attempts + 1 => do
    ask (.sleep interval)
    if ← ask .ready then
      let _ ← healOnce config
    else healWithin config interval attempts

def healAttempts : Nat := 60

def ensureDefaultInstance (config : Config) (interval : Nat) : Program Unit :=
  healWithin config interval healAttempts

end AutoscalerOperator
