import AutoscalerOperator.Config
import AutoscalerOperator.Controller.Definition
import AutoscalerOperator.Json.Block

open AutoscalerOperator

def readConfig : IO Config := do
  let found ← Config.environmentKeys.mapM fun key => return (key, ← IO.getEnv key)
  return Config.ofEnvironment fun key => (found.find? (·.1 = key)).bind (·.2)

/-- With the argument `crd` prints the definition of the instances' kind. Otherwise says what would
    be watched; the answers of a cluster come from elsewhere. -/
def main (args : List String) : IO UInt32 := do
  if args.head? = some "crd" then
    IO.print AutoscalerController.definition.toYaml
    return 0
  let config ← readConfig
  IO.eprintln ("Watching " ++ config.watchNamespace ++ " for " ++ AutoscalerController.kindName ++
    " " ++ config.name ++ ", operands in " ++ config.operandNamespace)
  IO.eprintln "No cluster to connect to"
  return 1
