import AutoscalerOperator.SortedMap

namespace AutoscalerOperator

namespace Requeue

def shortestDelay : UInt64 := 1

def longestDelay : UInt64 := 300

def doublings (failures : UInt32) : UInt32 := min (if failures = 0 then 0 else failures - 1) 16

def factor (failures : UInt32) : UInt32 := 1 <<< doublings failures

def multiplied (seconds : UInt64) (times : UInt32) : UInt64 :=
  if seconds.toNat * times.toNat < UInt64.size then seconds * times.toUInt64
  else UInt64.ofNat (UInt64.size - 1)

/-- Seconds to wait after so many failures in a row, before jitter: twice as long from one to the
    next. -/
def delay (failures : UInt32) : Nat :=
  (min (multiplied shortestDelay (factor failures)) longestDelay).toNat

/-- Failures in a row, by name of the instance. A name that is not there has not failed. -/
abbrev Failures := SortedMap UInt32

inductive Action
  | awaitChange
  | requeue (seconds : Nat)
  deriving DecidableEq

namespace Failures

def count (failures : Failures) (name : String) : UInt32 := (failures.get? name).getD 0

def record (failures : Failures) (name : String) : Failures :=
  let count := failures.count name
  failures.insert name (if count = UInt32.ofNat (UInt32.size - 1) then count else count + 1)

def reset (failures : Failures) (name : String) : Failures := failures.erase name

def afterPass (failures : Failures) (name : String) (succeeded : Bool) : Failures :=
  if succeeded then failures.reset name else failures.record name

def action (failures : Failures) (name : String) (succeeded : Bool) : Action :=
  if succeeded then .awaitChange else .requeue (delay (failures.count name))

end Failures

end Requeue

end AutoscalerOperator
