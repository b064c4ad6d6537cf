import AutoscalerOperator.Operand.Basic

namespace AutoscalerOperator

/-- Whether arguments set a flag, bare or with a value after `=`. -/
def argExists (args : List String) (name : String) : Bool :=
  args.any fun arg => arg == name || (name ++ "=").toList.isPrefixOf arg.toList

namespace Operand

def flag (name value : String) : String := name ++ "=" ++ value

def flag? {α : Type} (name : String) (value : Option α) (text : α → String) : List String :=
  (value.map fun v => flag name (text v)).toList

def certificatesPath : String := "/data/tls-certs"

def authoritiesPath : String := "/data/tls-ca-certs"

/-- A flag of the operator's own that gives way to one among the given arguments. -/
def flagUnless (given : List String) (name value : String) : List String :=
  if argExists given name then [] else [flag name value]

def ownArgs (operand : Operand) (spec : ControllerSpec) : List String :=
  match operand with
  | .recommender =>
    flag? "--recommendation-margin-fraction" spec.safetyMarginFraction (·.toText) ++
      flag? "--pod-recommendation-min-cpu-millicores" spec.podMinCpuMillicores (·.toText) ++
      flag? "--pod-recommendation-min-memory-mb" spec.podMinMemoryMb (·.toText)
  | .updater => flag? "--min-replicas" spec.minReplicas fun n => toString n.toInt
  | .admission =>
    let given := spec.deploymentOverrides.admission.container.args
    flagUnless given "--kube-api-qps" "25.0" ++ flagUnless given "--kube-api-burst" "50.0" ++
      [flag "--tls-cert-file" (certificatesPath ++ "/tls.crt"),
        flag "--tls-private-key" (certificatesPath ++ "/tls.key"),
        flag "--client-ca-file" (authoritiesPath ++ "/service-ca.crt"),
        flag "--webhook-timeout-seconds" "10"]

def args (operand : Operand) (spec : ControllerSpec) (config : Config) : List String :=
  ["--logtostderr", flag "--v" (toString config.verbosity.toInt)] ++ operand.ownArgs spec ++
    if config.extraArgs = "" then [] else [config.extraArgs]

end Operand

end AutoscalerOperator
