import AutoscalerOperator.Controller.Spec

namespace AutoscalerOperator

open Kubernetes

inductive ConditionType
  | available
  | progressing
  | degraded
  | upgradeable
  | other (name : String)
  deriving DecidableEq, Inhabited

namespace ConditionType

def known : List ConditionType := [available, progressing, degraded, upgradeable]

def name : ConditionType → String
  | .available => "Available"
  | .progressing => "Progressing"
  | .degraded => "Degraded"
  | .upgradeable => "Upgradeable"
  | .other name => name

def ofKnown? (name : String) : Option ConditionType := known.find? (·.name = name)

def ofName (name : String) : ConditionType := (ofKnown? name).getD (.other name)

/-- A type as it is read back. One of another actor may have a known name. -/
def recognized (type : ConditionType) : ConditionType := ofName type.name

theorem eq_of_ofKnown? {name : String} {type : ConditionType} (found : ofKnown? name = some type) :
    type ∈ known ∧ type.name = name :=
  ⟨List.mem_of_find?_eq_some found, by simpa using List.find?_some found⟩

@[simp] theorem name_ofName (name : String) : (ofName name).name = name := by
  unfold ofName
  cases found : ofKnown? name with
  | none => rfl
  | some type => exact (eq_of_ofKnown? found).2

@[simp] theorem recognized_ofName (name : String) : (ofName name).recognized = ofName name := by
  rw [recognized, name_ofName]

@[simp] theorem name_recognized (type : ConditionType) : type.recognized.name = type.name :=
  name_ofName type.name

@[simp] theorem recognized_recognized (type : ConditionType) :
    type.recognized.recognized = type.recognized :=
  recognized_ofName type.name

theorem recognized_of_known : ∀ type ∈ known, type.recognized = type := by
  decide

end ConditionType

inductive ConditionStatus
  | true
  | false
  | unknown
  deriving DecidableEq, Inhabited

namespace ConditionStatus

def name : ConditionStatus → String
  | .true => "True"
  | .false => "False"
  | .unknown => "Unknown"

def ofName? (name : String) : Option ConditionStatus :=
  [.true, .false, .unknown].find? (·.name = name)

end ConditionStatus

structure Condition where
  type : ConditionType
  status : ConditionStatus
  lastTransitionTime : Option Instant := none
  reason : String := ""
  message : String := ""
  deriving DecidableEq, Inhabited

def Condition.recognized (c : Condition) : Condition := { c with type := c.type.recognized }

@[simp] theorem Condition.recognized_recognized (c : Condition) :
    c.recognized.recognized = c.recognized := by
  simp [recognized]

theorem Condition.map_recognized {conditions : List Condition}
    (known : ∀ c ∈ conditions, c.recognized = c) :
    conditions.map Condition.recognized = conditions := by
  rw [List.map_congr_left known, List.map_id']

structure OperandVersion where
  name : String
  version : String
  deriving DecidableEq, Inhabited

structure RelatedObject where
  group : String := ""
  resource : String
  namespaceName : String := ""
  name : String
  deriving DecidableEq, Inhabited

structure ClusterOperatorStatus where
  conditions : List Condition := []
  /-- None says that they are not reported this time, which keeps the previous ones. -/
  versions : Option (List OperandVersion) := none
  relatedObjects : List RelatedObject := []
  extension : Option Json := none
  deriving DecidableEq, Inhabited

def ClusterOperatorStatus.recognized (s : ClusterOperatorStatus) : ClusterOperatorStatus :=
  { s with conditions := s.conditions.map Condition.recognized }

@[simp] theorem ClusterOperatorStatus.recognized_recognized (s : ClusterOperatorStatus) :
    s.recognized.recognized = s.recognized := by
  simp [recognized]

theorem ClusterOperatorStatus.recognized_eq {s : ClusterOperatorStatus}
    (known : ∀ c ∈ s.conditions, c.recognized = c) : s.recognized = s := by
  rw [recognized, Condition.map_recognized known]

/-- The object through which an operator reports its health. Its spec is always empty. -/
structure ClusterOperator where
  metadata : ObjectMeta := {}
  status : Option ClusterOperatorStatus := none
  deriving DecidableEq, Inhabited

def ClusterOperator.recognized (o : ClusterOperator) : ClusterOperator :=
  { o with status := o.status.map ClusterOperatorStatus.recognized }

@[simp] theorem ClusterOperator.recognized_recognized (o : ClusterOperator) :
    o.recognized.recognized = o.recognized := by
  cases status : o.status <;> simp [recognized, status]

def ClusterOperator.kindName : String := "ClusterOperator"

def ClusterOperator.apiVersion : String := "config.openshift.io/v1"

def findCondition (conditions : List Condition) (type : ConditionType) : Option Condition :=
  conditions.find? (·.type = type)

def resetProgressingTime (now : Instant) : List Condition → List Condition
  | [] => [{ type := .progressing, status := .unknown, lastTransitionTime := some now }]
  | c :: rest =>
    if c.type = .progressing then { c with lastTransitionTime := some now } :: rest
    else c :: resetProgressingTime now rest

end AutoscalerOperator
