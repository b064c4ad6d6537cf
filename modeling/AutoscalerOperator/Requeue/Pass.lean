import AutoscalerOperator.Reconcile
import AutoscalerOperator.Requeue.Delay

namespace AutoscalerOperator

namespace Requeue

/-- A pass over an instance that the queue hands out, and the failures after it. An instance without
    a namespace is looked for in the watched one. -/
def pass (config : Config) (failures : Failures) (owner : AutoscalerController) :
    Program (Except Error Unit × Failures) := do
  let namespaceName := owner.metadata.namespaceName.getD config.watchNamespace
  let result ← reconcile config namespaceName owner.displayName
  return (result, failures.afterPass owner.displayName result.toOption.isSome)

structure Turn where
  name : String
  succeeded : Bool
  action : Action
  deriving DecidableEq

def turn (config : Config) (failures : Failures) (owner : AutoscalerController) :
    Program (Turn × Failures) := do
  let (result, failures) ← pass config failures owner
  let name := owner.displayName
  let succeeded := result.toOption.isSome
  return (⟨name, succeeded, failures.action name succeeded⟩, failures)

end Requeue

end AutoscalerOperator
