import AutoscalerOperator.Error
import AutoscalerOperator.Kind

namespace AutoscalerOperator

open Kubernetes

inductive Verb
  | get
  | create
  | replace
  | replaceStatus
  deriving DecidableEq, Inhabited

namespace Verb

def title : Verb → String
  | .get => "Get"
  | .create => "Create"
  | .replace => "Replace"
  | .replaceStatus => "ReplaceStatus"

end Verb

structure ObjectKey where
  namespaceName : Option String
  name : String
  deriving DecidableEq, Inhabited

/-- The objects of a cluster, and the rules by which its API server takes writes: a version for
    every write, no write on a stale version, a status that only its own verb changes, and a
    generation that counts changes of what is asked for. -/
structure Cluster where
  objects : (kind : Kind) → ObjectKey → Option kind.Object := fun _ _ => none
  nextVersion : UInt64 := 1
  /-- Successful writes so far. Like the versions, their number wraps around. -/
  writeCount : UInt64 := 0
  /-- Verbs that fail on a kind, whatever the object. -/
  failing : List (Verb × Kind) := []
  ready : Bool := true

instance : Inhabited Cluster := ⟨{}⟩

namespace Cluster

def find? (cluster : Cluster) (kind : Kind) (key : ObjectKey) : Option kind.Object :=
  (cluster.objects kind key).map kind.recognized

def put (cluster : Cluster) (kind : Kind) (key : ObjectKey) (object : kind.Object) : Cluster :=
  { cluster with
    objects := fun otherKind otherKey =>
      if same : kind = otherKind then
        if key = otherKey then some (same ▸ object) else cluster.objects otherKind otherKey
      else cluster.objects otherKind otherKey }

def writes (cluster : Cluster) : Nat := cluster.writeCount.toNat

def version (cluster : Cluster) : String := toString cluster.nextVersion

def bump (cluster : Cluster) : Cluster := { cluster with nextVersion := cluster.nextVersion + 1 }

def countWrite (cluster : Cluster) : Cluster :=
  { cluster with writeCount := cluster.writeCount + 1 }

def fail (cluster : Cluster) (verb : Verb) (kind : Kind) : Cluster :=
  { cluster with failing := cluster.failing ++ [(verb, kind)] }

def injectedFailure (verb : Verb) (kind : Kind) : Error :=
  .api {
    message := "injected " ++ verb.title ++ " failure for " ++ kind.name
    reason := "InternalError"
    code := 500 }

def notFound (kind : Kind) (name : String) : Error :=
  .api {
    message := kind.name ++ " \"" ++ name ++ "\" not found"
    reason := "NotFound"
    code := 404 }

def alreadyExists (kind : Kind) (name : String) : Error :=
  .api {
    message := kind.name ++ " \"" ++ name ++ "\" already exists"
    reason := "AlreadyExists"
    code := 409 }

def conflict (name : String) : Error :=
  .api {
    message := "the object " ++ name ++ " has been modified"
    reason := "Conflict"
    code := 409 }

def checkFailure (cluster : Cluster) (verb : Verb) (kind : Kind) : Except Error Unit :=
  if (verb, kind) ∈ cluster.failing then .error (injectedFailure verb kind) else .ok ()

def keyOf (kind : Kind) (object : kind.Object) : Except Error ObjectKey :=
  let m := kind.metadata object
  match m.name with
  | some name => .ok ⟨m.namespaceName, name⟩
  | none => .error (.missingName kind.name)

/-- Whether a write is about the version that is stored. One that names no version is. -/
def isCurrent (kind : Kind) (stored object : kind.Object) : Bool :=
  match (kind.metadata object).resourceVersion with
  | none => true
  | some version => (kind.metadata stored).resourceVersion == some version

def created (cluster : Cluster) (kind : Kind) (object : kind.Object) : kind.Object :=
  let m := kind.metadata object
  kind.withMetadata (kind.withoutStatus object) { m with
    resourceVersion := some cluster.version
    generation := some 1
    uid := m.uid.or (some ("uid-" ++ cluster.version)) }

def replaced (cluster : Cluster) (kind : Kind) (stored object : kind.Object) : kind.Object :=
  let m := kind.metadata object
  let s := kind.metadata stored
  let generation := s.generation.getD 1
  kind.withMetadata (kind.withStatusOf object stored) { m with
    resourceVersion := some cluster.version
    generation := some (if kind.sameSpec stored object then generation else generation + 1)
    uid := s.uid.or m.uid }

def restated (cluster : Cluster) (kind : Kind) (stored object : kind.Object) : kind.Object :=
  kind.withMetadata (kind.withStatusOf stored (kind.recognized object))
    { kind.metadata stored with resourceVersion := some cluster.version }

def write (cluster : Cluster) (kind : Kind) (key : ObjectKey) (object : kind.Object) : Cluster :=
  ((cluster.put kind key object).bump).countWrite

def get (cluster : Cluster) (kind : Kind) (key : ObjectKey) : Except Error kind.Object := do
  cluster.checkFailure .get kind
  match cluster.find? kind key with
  | some object => return object
  | none => throw (notFound kind key.name)

def create (cluster : Cluster) (kind : Kind) (object : kind.Object) :
    Except Error (kind.Object × Cluster) := do
  cluster.checkFailure .create kind
  let key ← keyOf kind object
  match cluster.find? kind key with
  | some _ => throw (alreadyExists kind key.name)
  | none =>
    let object := cluster.created kind object
    return (object, cluster.write kind key object)

def update (cluster : Cluster) (verb : Verb) (kind : Kind) (object : kind.Object)
    (result : kind.Object → kind.Object) : Except Error (kind.Object × Cluster) := do
  cluster.checkFailure verb kind
  let key ← keyOf kind object
  match cluster.find? kind key with
  | none => throw (notFound kind key.name)
  | some stored =>
    if isCurrent kind stored object then
      return (result stored, cluster.write kind key (result stored))
    else throw (conflict key.name)

def replace (cluster : Cluster) (kind : Kind) (object : kind.Object) :
    Except Error (kind.Object × Cluster) :=
  cluster.update .replace kind object (cluster.replaced kind · object)

def replaceStatus (cluster : Cluster) (kind : Kind) (object : kind.Object) :
    Except Error (kind.Object × Cluster) :=
  cluster.update .replaceStatus kind object (cluster.restated kind · object)

/-- Puts an object in as it is, with the next version if it has none. -/
def insert (cluster : Cluster) (kind : Kind) (object : kind.Object) : Cluster :=
  let m := kind.metadata object
  let key : ObjectKey := ⟨m.namespaceName, m.name.getD ""⟩
  match m.resourceVersion with
  | some _ => cluster.put kind key object
  | none =>
    let object := kind.withMetadata object { m with resourceVersion := some cluster.version }
    (cluster.put kind key object).bump

end Cluster

end AutoscalerOperator
