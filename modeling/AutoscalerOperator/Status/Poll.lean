import AutoscalerOperator.Status.Report

namespace AutoscalerOperator

open Program

def pollInterval : Nat := 15000

/-- Reports at once and then after every interval, as often as given and until the operator is told
    to stop. The answer is whether it was. That a report fails is of no consequence. -/
def pollStatus (config : Config) : (intervals : Nat) → Program Bool
  | 0 => do
    if ← ask .cancelled then return true
    else
      let _ ← reportStatus config
      ask .cancelled
  | intervals + 1 => do
    if ← ask .cancelled then return true
    else
      let _ ← reportStatus config
      -- Nothing is waited for once the operator has been told to stop.
      if ← ask .cancelled then return true
      else
        ask (.sleep pollInterval)
        pollStatus config intervals

end AutoscalerOperator
