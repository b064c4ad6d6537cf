import AutoscalerOperator.Kubernetes.Volume

namespace AutoscalerOperator.Kubernetes

namespace Shape

def nodeSelectorRequirement : Shape := .record "NodeSelectorRequirement"
  [("key", .text), ("operator", .text)]
  [("values", .list .text)]

def nodeSelectorTerm : Shape := .record "NodeSelectorTerm" [] [
  ("matchExpressions", .list nodeSelectorRequirement),
  ("matchFields", .list nodeSelectorRequirement)]

def nodeSelector : Shape := .record "NodeSelector"
  [("nodeSelectorTerms", .list nodeSelectorTerm)] []

def preferredSchedulingTerm : Shape := .record "PreferredSchedulingTerm"
  [("preference", nodeSelectorTerm), ("weight", .int32)] []

def nodeAffinity : Shape := .record "NodeAffinity" [] [
  ("preferredDuringSchedulingIgnoredDuringExecution", .list preferredSchedulingTerm),
  ("requiredDuringSchedulingIgnoredDuringExecution", nodeSelector)]

def podAffinityTerm : Shape := .record "PodAffinityTerm"
  [("topologyKey", .text)] [
  ("labelSelector", labelSelector),
  ("matchLabelKeys", .list .text),
  ("mismatchLabelKeys", .list .text),
  ("namespaceSelector", labelSelector),
  ("namespaces", .list .text)]

def weightedPodAffinityTerm : Shape := .record "WeightedPodAffinityTerm"
  [("podAffinityTerm", podAffinityTerm), ("weight", .int32)] []

def podAffinity (type : String) : Shape := .record type [] [
  ("preferredDuringSchedulingIgnoredDuringExecution", .list weightedPodAffinityTerm),
  ("requiredDuringSchedulingIgnoredDuringExecution", .list podAffinityTerm)]

def affinity : Shape := .record "Affinity" [] [
  ("nodeAffinity", nodeAffinity),
  ("podAffinity", podAffinity "PodAffinity"),
  ("podAntiAffinity", podAffinity "PodAntiAffinity")]

def podDNSConfigOption : Shape := .record "PodDNSConfigOption" []
  [("name", .text), ("value", .text)]

def podDNSConfig : Shape := .record "PodDNSConfig" [] [
  ("nameservers", .list .text),
  ("options", .list podDNSConfigOption),
  ("searches", .list .text)]

def hostAlias : Shape := .record "HostAlias" [("ip", .text)] [("hostnames", .list .text)]

def podOS : Shape := .record "PodOS" [("name", .text)] []

def podReadinessGate : Shape := .record "PodReadinessGate" [("conditionType", .text)] []

def podResourceClaim : Shape := .record "PodResourceClaim"
  [("name", .text)]
  [("resourceClaimName", .text), ("resourceClaimTemplateName", .text)]

def podSchedulingGate : Shape := .record "PodSchedulingGate" [("name", .text)] []

def sysctl : Shape := .record "Sysctl" [("name", .text), ("value", .text)] []

def topologySpreadConstraint : Shape := .record "TopologySpreadConstraint"
  [("maxSkew", .int32), ("topologyKey", .text), ("whenUnsatisfiable", .text)] [
  ("labelSelector", labelSelector),
  ("matchLabelKeys", .list .text),
  ("minDomains", .int32),
  ("nodeAffinityPolicy", .text),
  ("nodeTaintsPolicy", .text)]

end Shape

structure Toleration where
  effect : Option String := none
  key : Option String := none
  operator : Option String := none
  tolerationSeconds : Option Int64 := none
  value : Option String := none
  deriving DecidableEq, Inhabited

instance : ToJson Toleration where
  toJson r := .record [
    ("effect", r.effect.map toJson),
    ("key", r.key.map toJson),
    ("operator", r.operator.map toJson),
    ("tolerationSeconds", r.tolerationSeconds.map toJson),
    ("value", r.value.map toJson)]

instance : OfJson Toleration := ⟨.object "Toleration" {} [
  .optional "effect" fun r v => { r with effect := v },
  .optional "key" fun r v => { r with key := v },
  .optional "operator" fun r v => { r with operator := v },
  .optional "tolerationSeconds" fun r v => { r with tolerationSeconds := v },
  .optional "value" fun r v => { r with value := v }]⟩

structure PodSecurityContext where
  appArmorProfile : Option (Carried (.securityProfile "AppArmorProfile")) := none
  fsGroup : Option Int64 := none
  fsGroupChangePolicy : Option String := none
  runAsGroup : Option Int64 := none
  runAsNonRoot : Option Bool := none
  runAsUser : Option Int64 := none
  seLinuxOptions : Option (Carried .seLinuxOptions) := none
  seccompProfile : Option SeccompProfile := none
  supplementalGroups : Option (List Int64) := none
  supplementalGroupsPolicy : Option String := none
  sysctls : Option (Carried (.list .sysctl)) := none
  windowsOptions : Option (Carried .windowsOptions) := none
  deriving DecidableEq, Inhabited

instance : ToJson PodSecurityContext where
  toJson r := .record [
    ("appArmorProfile", r.appArmorProfile.map toJson),
    ("fsGroup", r.fsGroup.map toJson),
    ("fsGroupChangePolicy", r.fsGroupChangePolicy.map toJson),
    ("runAsGroup", r.runAsGroup.map toJson),
    ("runAsNonRoot", r.runAsNonRoot.map toJson),
    ("runAsUser", r.runAsUser.map toJson),
    ("seLinuxOptions", r.seLinuxOptions.map toJson),
    ("seccompProfile", r.seccompProfile.map toJson),
    ("supplementalGroups", r.supplementalGroups.map toJson),
    ("supplementalGroupsPolicy", r.supplementalGroupsPolicy.map toJson),
    ("sysctls", r.sysctls.map toJson),
    ("windowsOptions", r.windowsOptions.map toJson)]

instance : OfJson PodSecurityContext := ⟨.object "PodSecurityContext" {} [
  .optional "appArmorProfile" fun r v => { r with appArmorProfile := v },
  .optional "fsGroup" fun r v => { r with fsGroup := v },
  .optional "fsGroupChangePolicy" fun r v => { r with fsGroupChangePolicy := v },
  .optional "runAsGroup" fun r v => { r with runAsGroup := v },
  .optional "runAsNonRoot" fun r v => { r with runAsNonRoot := v },
  .optional "runAsUser" fun r v => { r with runAsUser := v },
  .optional "seLinuxOptions" fun r v => { r with seLinuxOptions := v },
  .optional "seccompProfile" fun r v => { r with seccompProfile := v },
  .optional "supplementalGroups" fun r v => { r with supplementalGroups := v },
  .optional "supplementalGroupsPolicy" fun r v => { r with supplementalGroupsPolicy := v },
  .optional "sysctls" fun r v => { r with sysctls := v },
  .optional "windowsOptions" fun r v => { r with windowsOptions := v }]⟩

structure LocalObjectReference where
  name : String := ""
  deriving DecidableEq, Inhabited

instance : ToJson LocalObjectReference where
  toJson r := .record [
    ("name", some (toJson r.name))]

instance : OfJson LocalObjectReference := ⟨.object "LocalObjectReference" {} [
  .lenient "name" "" fun r v => { r with name := v }]⟩

structure PodSpec where
  activeDeadlineSeconds : Option Int64 := none
  affinity : Option (Carried .affinity) := none
  automountServiceAccountToken : Option Bool := none
  containers : List Container := []
  dnsConfig : Option (Carried .podDNSConfig) := none
  dnsPolicy : Option String := none
  enableServiceLinks : Option Bool := none
  ephemeralContainers : Option (Carried (.list .ephemeralContainer)) := none
  hostAliases : Option (Carried (.list .hostAlias)) := none
  hostIPC : Option Bool := none
  hostNetwork : Option Bool := none
  hostPID : Option Bool := none
  hostUsers : Option Bool := none
  hostname : Option String := none
  imagePullSecrets : Option (List LocalObjectReference) := none
  initContainers : Option (List Container) := none
  nodeName : Option String := none
  nodeSelector : Option Labels := none
  os : Option (Carried .podOS) := none
  overhead : Option (SortedMap Quantity) := none
  preemptionPolicy : Option String := none
  priority : Option Int32 := none
  priorityClassName : Option String := none
  readinessGates : Option (Carried (.list .podReadinessGate)) := none
  resourceClaims : Option (Carried (.list .podResourceClaim)) := none
  restartPolicy : Option String := none
  runtimeClassName : Option String := none
  schedulerName : Option String := none
  schedulingGates : Option (Carried (.list .podSchedulingGate)) := none
  securityContext : Option PodSecurityContext := none
  serviceAccount : Option String := none
  serviceAccountName : Option String := none
  setHostnameAsFQDN : Option Bool := none
  shareProcessNamespace : Option Bool := none
  subdomain : Option String := none
  terminationGracePeriodSeconds : Option Int64 := none
  tolerations : Option (List Toleration) := none
  topologySpreadConstraints : Option (Carried (.list .topologySpreadConstraint)) := none
  volumes : Option (List Volume) := none
  deriving DecidableEq, Inhabited

instance : ToJson PodSpec where
  toJson r := .record [
    ("activeDeadlineSeconds", r.activeDeadlineSeconds.map toJson),
    ("affinity", r.affinity.map toJson),
    ("automountServiceAccountToken", r.automountServiceAccountToken.map toJson),
    ("containers", some (toJson r.containers)),
    ("dnsConfig", r.dnsConfig.map toJson),
    ("dnsPolicy", r.dnsPolicy.map toJson),
    ("enableServiceLinks", r.enableServiceLinks.map toJson),
    ("ephemeralContainers", r.ephemeralContainers.map toJson),
    ("hostAliases", r.hostAliases.map toJson),
    ("hostIPC", r.hostIPC.map toJson),
    ("hostNetwork", r.hostNetwork.map toJson),
    ("hostPID", r.hostPID.map toJson),
    ("hostUsers", r.hostUsers.map toJson),
    ("hostname", r.hostname.map toJson),
    ("imagePullSecrets", r.imagePullSecrets.map toJson),
    ("initContainers", r.initContainers.map toJson),
    ("nodeName", r.nodeName.map toJson),
    ("nodeSelector", r.nodeSelector.map toJson),
    ("os", r.os.map toJson),
    ("overhead", r.overhead.map toJson),
    ("preemptionPolicy", r.preemptionPolicy.map toJson),
    ("priority", r.priority.map toJson),
    ("priorityClassName", r.priorityClassName.map toJson),
    ("readinessGates", r.readinessGates.map toJson),
    ("resourceClaims", r.resourceClaims.map toJson),
    ("restartPolicy", r.restartPolicy.map toJson),
    ("runtimeClassName", r.runtimeClassName.map toJson),
    ("schedulerName", r.schedulerName.map toJson),
    ("schedulingGates", r.schedulingGates.map toJson),
    ("securityContext", r.securityContext.map toJson),
    ("serviceAccount", r.serviceAccount.map toJson),
    ("serviceAccountName", r.serviceAccountName.map toJson),
    ("setHostnameAsFQDN", r.setHostnameAsFQDN.map toJson),
    ("shareProcessNamespace", r.shareProcessNamespace.map toJson),
    ("subdomain", r.subdomain.map toJson),
    ("terminationGracePeriodSeconds", r.terminationGracePeriodSeconds.map toJson),
    ("tolerations", r.tolerations.map toJson),
    ("topologySpreadConstraints", r.topologySpreadConstraints.map toJson),
    ("volumes", r.volumes.map toJson)]

instance : OfJson PodSpec := ⟨.object "PodSpec" {} [
  .optional "activeDeadlineSeconds" fun r v => { r with activeDeadlineSeconds := v },
  .optional "affinity" fun r v => { r with affinity := v },
  .optional "automountServiceAccountToken" fun r v => { r with automountServiceAccountToken := v },
  .lenient "containers" [] fun r v => { r with containers := v },
  .optional "dnsConfig" fun r v => { r with dnsConfig := v },
  .optional "dnsPolicy" fun r v => { r with dnsPolicy := v },
  .optional "enableServiceLinks" fun r v => { r with enableServiceLinks := v },
  .optional "ephemeralContainers" fun r v => { r with ephemeralContainers := v },
  .optional "hostAliases" fun r v => { r with hostAliases := v },
  .optional "hostIPC" fun r v => { r with hostIPC := v },
  .optional "hostNetwork" fun r v => { r with hostNetwork := v },
  .optional "hostPID" fun r v => { r with hostPID := v },
  .optional "hostUsers" fun r v => { r with hostUsers := v },
  .optional "hostname" fun r v => { r with hostname := v },
  .optional "imagePullSecrets" fun r v => { r with imagePullSecrets := v },
  .optional "initContainers" fun r v => { r with initContainers := v },
  .optional "nodeName" fun r v => { r with nodeName := v },
  .optional "nodeSelector" fun r v => { r with nodeSelector := v },
  .optional "os" fun r v => { r with os := v },
  .optional "overhead" fun r v => { r with overhead := v },
  .optional "preemptionPolicy" fun r v => { r with preemptionPolicy := v },
  .optional "priority" fun r v => { r with priority := v },
  .optional "priorityClassName" fun r v => { r with priorityClassName := v },
  .optional "readinessGates" fun r v => { r with readinessGates := v },
  .optional "resourceClaims" fun r v => { r with resourceClaims := v },
  .optional "restartPolicy" fun r v => { r with restartPolicy := v },
  .optional "runtimeClassName" fun r v => { r with runtimeClassName := v },
  .optional "schedulerName" fun r v => { r with schedulerName := v },
  .optional "schedulingGates" fun r v => { r with schedulingGates := v },
  .optional "securityContext" fun r v => { r with securityContext := v },
  .optional "serviceAccount" fun r v => { r with serviceAccount := v },
  .optional "serviceAccountName" fun r v => { r with serviceAccountName := v },
  .optional "setHostnameAsFQDN" fun r v => { r with setHostnameAsFQDN := v },
  .optional "shareProcessNamespace" fun r v => { r with shareProcessNamespace := v },
  .optional "subdomain" fun r v => { r with subdomain := v },
  .optional "terminationGracePeriodSeconds" fun r v =>
    { r with terminationGracePeriodSeconds := v },
  .optional "tolerations" fun r v => { r with tolerations := v },
  .optional "topologySpreadConstraints" fun r v => { r with topologySpreadConstraints := v },
  .optional "volumes" fun r v => { r with volumes := v }]⟩

structure PodTemplateSpec where
  metadata : Option ObjectMeta := none
  spec : Option PodSpec := none
  deriving DecidableEq, Inhabited

instance : ToJson PodTemplateSpec where
  toJson r := .record [
    ("metadata", r.metadata.map toJson),
    ("spec", r.spec.map toJson)]

instance : OfJson PodTemplateSpec := ⟨.object "PodTemplateSpec" {} [
  .optional "metadata" fun r v => { r with metadata := v },
  .optional "spec" fun r v => { r with spec := v }]⟩

end AutoscalerOperator.Kubernetes
