import AutoscalerOperator.Kubernetes.Metadata

namespace AutoscalerOperator.Kubernetes

namespace Shape

def clientIPConfig : Shape := .record "ClientIPConfig" [] [("timeoutSeconds", .int32)]

def sessionAffinityConfig : Shape := .record "SessionAffinityConfig" []
  [("clientIP", clientIPConfig)]

def portStatus : Shape := .record "PortStatus"
  [("port", .int32), ("protocol", .text)]
  [("error", .text)]

def condition : Shape := .record "Condition"
  [("lastTransitionTime", .time), ("message", .text), ("reason", .text), ("status", .text),
    ("type", .text)]
  [("observedGeneration", .int64)]

end Shape

structure ServicePort where
  appProtocol : Option String := none
  name : Option String := none
  nodePort : Option Int32 := none
  port : Int32 := 0
  protocol : Option String := none
  targetPort : Option IntOrString := none
  deriving DecidableEq, Inhabited

instance : ToJson ServicePort where
  toJson r := .record [
    ("appProtocol", r.appProtocol.map toJson),
    ("name", r.name.map toJson),
    ("nodePort", r.nodePort.map toJson),
    ("port", some (toJson r.port)),
    ("protocol", r.protocol.map toJson),
    ("targetPort", r.targetPort.map toJson)]

instance : OfJson ServicePort := ⟨.object "ServicePort" {} [
  .optional "appProtocol" fun r v => { r with appProtocol := v },
  .optional "name" fun r v => { r with name := v },
  .optional "nodePort" fun r v => { r with nodePort := v },
  .lenient "port" 0 fun r v => { r with port := v },
  .optional "protocol" fun r v => { r with protocol := v },
  .optional "targetPort" fun r v => { r with targetPort := v }]⟩

structure ServiceSpec where
  allocateLoadBalancerNodePorts : Option Bool := none
  clusterIP : Option String := none
  clusterIPs : Option (List String) := none
  externalIPs : Option (List String) := none
  externalName : Option String := none
  externalTrafficPolicy : Option String := none
  healthCheckNodePort : Option Int32 := none
  internalTrafficPolicy : Option String := none
  ipFamilies : Option (List String) := none
  ipFamilyPolicy : Option String := none
  loadBalancerClass : Option String := none
  loadBalancerIP : Option String := none
  loadBalancerSourceRanges : Option (List String) := none
  ports : Option (List ServicePort) := none
  publishNotReadyAddresses : Option Bool := none
  selector : Option Labels := none
  sessionAffinity : Option String := none
  sessionAffinityConfig : Option (Carried .sessionAffinityConfig) := none
  trafficDistribution : Option String := none
  serviceType : Option String := none
  deriving DecidableEq, Inhabited

instance : ToJson ServiceSpec where
  toJson r := .record [
    ("allocateLoadBalancerNodePorts", r.allocateLoadBalancerNodePorts.map toJson),
    ("clusterIP", r.clusterIP.map toJson),
    ("clusterIPs", r.clusterIPs.map toJson),
    ("externalIPs", r.externalIPs.map toJson),
    ("externalName", r.externalName.map toJson),
    ("externalTrafficPolicy", r.externalTrafficPolicy.map toJson),
    ("healthCheckNodePort", r.healthCheckNodePort.map toJson),
    ("internalTrafficPolicy", r.internalTrafficPolicy.map toJson),
    ("ipFamilies", r.ipFamilies.map toJson),
    ("ipFamilyPolicy", r.ipFamilyPolicy.map toJson),
    ("loadBalancerClass", r.loadBalancerClass.map toJson),
    ("loadBalancerIP", r.loadBalancerIP.map toJson),
    ("loadBalancerSourceRanges", r.loadBalancerSourceRanges.map toJson),
    ("ports", r.ports.map toJson),
    ("publishNotReadyAddresses", r.publishNotReadyAddresses.map toJson),
    ("selector", r.selector.map toJson),
    ("sessionAffinity", r.sessionAffinity.map toJson),
    ("sessionAffinityConfig", r.sessionAffinityConfig.map toJson),
    ("trafficDistribution", r.trafficDistribution.map toJson),
    ("type", r.serviceType.map toJson)]

instance : OfJson ServiceSpec := ⟨.object "ServiceSpec" {} [
  .optional "allocateLoadBalancerNodePorts" fun r v =>
    { r with allocateLoadBalancerNodePorts := v },
  .optional "clusterIP" fun r v => { r with clusterIP := v },
  .optional "clusterIPs" fun r v => { r with clusterIPs := v },
  .optional "externalIPs" fun r v => { r with externalIPs := v },
  .optional "externalName" fun r v => { r with externalName := v },
  .optional "externalTrafficPolicy" fun r v => { r with externalTrafficPolicy := v },
  .optional "healthCheckNodePort" fun r v => { r with healthCheckNodePort := v },
  .optional "internalTrafficPolicy" fun r v => { r with internalTrafficPolicy := v },
  .optional "ipFamilies" fun r v => { r with ipFamilies := v },
  .optional "ipFamilyPolicy" fun r v => { r with ipFamilyPolicy := v },
  .optional "loadBalancerClass" fun r v => { r with loadBalancerClass := v },
  .optional "loadBalancerIP" fun r v => { r with loadBalancerIP := v },
  .optional "loadBalancerSourceRanges" fun r v => { r with loadBalancerSourceRanges := v },
  .optional "ports" fun r v => { r with ports := v },
  .optional "publishNotReadyAddresses" fun r v => { r with publishNotReadyAddresses := v },
  .optional "selector" fun r v => { r with selector := v },
  .optional "sessionAffinity" fun r v => { r with sessionAffinity := v },
  .optional "sessionAffinityConfig" fun r v => { r with sessionAffinityConfig := v },
  .optional "trafficDistribution" fun r v => { r with trafficDistribution := v },
  .optional "type" fun r v => { r with serviceType := v }]⟩

structure LoadBalancerIngress where
  hostname : Option String := none
  ip : Option String := none
  ipMode : Option String := none
  ports : Option (Carried (.list .portStatus)) := none
  deriving DecidableEq, Inhabited

instance : ToJson LoadBalancerIngress where
  toJson r := .record [
    ("hostname", r.hostname.map toJson),
    ("ip", r.ip.map toJson),
    ("ipMode", r.ipMode.map toJson),
    ("ports", r.ports.map toJson)]

instance : OfJson LoadBalancerIngress := ⟨.object "LoadBalancerIngress" {} [
  .optional "hostname" fun r v => { r with hostname := v },
  .optional "ip" fun r v => { r with ip := v },
  .optional "ipMode" fun r v => { r with ipMode := v },
  .optional "ports" fun r v => { r with ports := v }]⟩

structure LoadBalancerStatus where
  ingress : Option (List LoadBalancerIngress) := none
  deriving DecidableEq, Inhabited

instance : ToJson LoadBalancerStatus where
  toJson l := .record [
    ("ingress", l.ingress.map toJson)]

instance : OfJson LoadBalancerStatus := ⟨.object "LoadBalancerStatus" {} [
  .optional "ingress" fun r v => { r with ingress := v }]⟩

structure ServiceStatus where
  conditions : Option (Carried (.list .condition)) := none
  loadBalancer : Option LoadBalancerStatus := none
  deriving DecidableEq, Inhabited

instance : ToJson ServiceStatus where
  toJson r := .record [
    ("conditions", r.conditions.map toJson),
    ("loadBalancer", r.loadBalancer.map toJson)]

instance : OfJson ServiceStatus := ⟨.object "ServiceStatus" {} [
  .optional "conditions" fun r v => { r with conditions := v },
  .optional "loadBalancer" fun r v => { r with loadBalancer := v }]⟩

structure Service where
  metadata : ObjectMeta := {}
  spec : Option ServiceSpec := none
  status : Option ServiceStatus := none
  deriving DecidableEq, Inhabited

instance : ToJson Service where
  toJson s := .record [
    ("apiVersion", some (.str "v1")),
    ("kind", some (.str "Service")),
    ("metadata", some (toJson s.metadata)),
    ("spec", s.spec.map toJson),
    ("status", s.status.map toJson)]

instance : OfJson Service := ⟨.object "Service" {} [
  .fixed "apiVersion" "v1",
  .fixed "kind" "Service",
  .lenient "metadata" {} fun r v => { r with metadata := v },
  .optional "spec" fun r v => { r with spec := v },
  .optional "status" fun r v => { r with status := v }]⟩

end AutoscalerOperator.Kubernetes
