import AutoscalerOperator.Program
import AutoscalerOperator.Simulation.Trap

namespace AutoscalerOperator

structure LoggedCall where
  verb : Verb
  kind : Kind
  namespaceName : Option String
  name : Option String
  failure : Option Error
  deriving DecidableEq

/-- Surroundings of the operator in memory: a cluster, a sink for events, a clock, and traps that
    interfere with calls. -/
structure Simulation where
  cluster : Cluster := {}
  traps : List Trap := []
  log : List LoggedCall := []
  events : List Event := []
  /-- A broken sink refuses all events. -/
  isSinkBroken : Bool := false
  /-- So often the API says that it cannot be reached, whatever the state of the cluster. -/
  unreadyPolls : Nat := 0
  clock : Instant
  elapsed : Nat := 0
  /-- The token by which the operator is told to stop, one of those that exist. -/
  token : Nat := 0
  cancelledTokens : List Nat := []

namespace Simulation

def cancelToken (s : Simulation) : Simulation :=
  { s with cancelledTokens := s.token :: s.cancelledTokens }

def renewToken (s : Simulation) : Simulation := { s with token := s.token + 1 }

def isCancelled (s : Simulation) : Bool := s.cancelledTokens.contains s.token

def onObject {α : Type} (s : Simulation) (verb : Verb) (kind : Kind)
    (namespaceName name : Option String) (act : Cluster → Except Error (α × Cluster)) :
    Except Error α × Simulation :=
  let sprung := Trap.spring verb kind s.traps
  let s := { s with
    traps := sprung.traps
    cancelledTokens := sprung.cancelled ++ s.cancelledTokens }
  let logged (failure : Option Error) : List LoggedCall :=
    s.log ++ [⟨verb, kind, namespaceName, name, failure⟩]
  match sprung.failure with
  | some e => (.error e, { s with log := logged (some e) })
  | none =>
    match act s.cluster with
    | .ok (value, cluster) => (.ok value, { s with cluster, log := logged none })
    | .error e => (.error e, { s with log := logged (some e) })

def onGivenObject (s : Simulation) (verb : Verb) (kind : Kind) (object : kind.Object)
    (act : Cluster → Except Error (kind.Object × Cluster)) :
    Except Error kind.Object × Simulation :=
  let metadata := kind.metadata object
  s.onObject verb kind metadata.namespaceName metadata.name act

def sinkFailure : Error := .plain "event sink is broken"

def handle : Handler Simulation
  | .get kind namespaceName name, s =>
    s.onObject .get kind namespaceName (some name) fun cluster =>
      (cluster.get kind ⟨namespaceName, name⟩).map (·, cluster)
  | .create kind object, s => s.onGivenObject .create kind object (·.create kind object)
  | .replace kind object, s => s.onGivenObject .replace kind object (·.replace kind object)
  | .replaceStatus kind object, s =>
    s.onGivenObject .replaceStatus kind object (·.replaceStatus kind object)
  | .ready, s =>
    if 0 < s.unreadyPolls then (false, { s with unreadyPolls := s.unreadyPolls - 1 })
    else (s.cluster.ready, s)
  | .publish event, s =>
    if s.isSinkBroken then (.error sinkFailure, s)
    else (.ok (), { s with events := s.events ++ [event] })
  | .now, s => (s.clock, s)
  | .cancelled, s => (s.isCancelled, s)
  | .sleep milliseconds, s => ((), { s with elapsed := s.elapsed + milliseconds })

end Simulation

end AutoscalerOperator
