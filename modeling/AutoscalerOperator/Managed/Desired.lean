import AutoscalerOperator.Managed.Basic

namespace AutoscalerOperator

open Kubernetes

def desiredDeployment (operand : Operand) (owner : AutoscalerController) (config : Config) :
    Deployment :=
  let labels := operand.labels owner.displayName
  let deployment : Deployment := {
    metadata := {
      name := some (operand.resourceName owner.displayName)
      namespaceName := some config.operandNamespace
      labels := some labels }
    spec := some {
      replicas := some (operand.replicas owner.spec)
      selector := { matchLabels := some labels }
      template := {
        metadata := some { labels := some labels }
        spec := some (operand.podSpec owner.spec config) } } }
  deployment.stamped config.releaseVersion

def desiredService (config : Config) : Service :=
  let service : Service := {
    metadata := { name := some "vpa-webhook", namespaceName := some config.operandNamespace }
    spec := some {
      ports := some [{
        port := 443
        targetPort := some (.int Operand.admissionPort)
        protocol := some "TCP" }]
      selector := some (.ofList [("app", Operand.admission.appName)]) } }
  service.stamped config.releaseVersion Operand.certificateSecret

def desiredConfigMap (config : Config) : ConfigMap :=
  let configMap : ConfigMap := {
    metadata := {
      name := some Operand.authorityConfigMap
      namespaceName := some config.operandNamespace } }
  configMap.stamped config.releaseVersion

def desiredObjects (owner : AutoscalerController) (config : Config) : List ManagedObject :=
  Operand.all.map (fun operand => ⟨.deployment, desiredDeployment operand owner config⟩) ++
    [⟨.service, desiredService config⟩, ⟨.configMap, desiredConfigMap config⟩]

end AutoscalerOperator
