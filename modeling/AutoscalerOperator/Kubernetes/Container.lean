import AutoscalerOperator.Kubernetes.Resources
import AutoscalerOperator.Kubernetes.Shape

namespace AutoscalerOperator.Kubernetes

namespace Shape

def objectFieldSelector : Shape := .record "ObjectFieldSelector"
  [("fieldPath", .text)]
  [("apiVersion", .text)]

def resourceFieldSelector : Shape := .record "ResourceFieldSelector"
  [("resource", .text)]
  [("containerName", .text), ("divisor", .quantity)]

def keySelector (type : String) : Shape := .record type
  [("key", .text), ("name", .text)]
  [("optional", .flag)]

def envSource (type : String) : Shape := .record type [("name", .text)] [("optional", .flag)]

def envFromSource : Shape := .record "EnvFromSource" [] [
  ("configMapRef", envSource "ConfigMapEnvSource"),
  ("prefix", .text),
  ("secretRef", envSource "SecretEnvSource")]

def execAction : Shape := .record "ExecAction" [] [("command", .list .text)]

def grpcAction : Shape := .record "GRPCAction" [("port", .int32)] [("service", .text)]

def httpHeader : Shape := .record "HTTPHeader" [("name", .text), ("value", .text)] []

def httpGetAction : Shape := .record "HTTPGetAction"
  [("port", .intOrString)]
  [("host", .text), ("httpHeaders", .list httpHeader), ("path", .text), ("scheme", .text)]

def sleepAction : Shape := .record "SleepAction" [("seconds", .int64)] []

def tcpSocketAction : Shape := .record "TCPSocketAction" [("port", .intOrString)] [("host", .text)]

def lifecycleHandler : Shape := .record "LifecycleHandler" [] [
  ("exec", execAction),
  ("httpGet", httpGetAction),
  ("sleep", sleepAction),
  ("tcpSocket", tcpSocketAction)]

def lifecycle : Shape := .record "Lifecycle" []
  [("postStart", lifecycleHandler), ("preStop", lifecycleHandler)]

def containerResizePolicy : Shape := .record "ContainerResizePolicy"
  [("resourceName", .text), ("restartPolicy", .text)] []

def volumeDevice : Shape := .record "VolumeDevice" [("devicePath", .text), ("name", .text)] []

def securityProfile (type : String) : Shape := .record type
  [("type", .text)]
  [("localhostProfile", .text)]

def seLinuxOptions : Shape := .record "SELinuxOptions" []
  [("level", .text), ("role", .text), ("type", .text), ("user", .text)]

def windowsOptions : Shape := .record "WindowsSecurityContextOptions" [] [
  ("gmsaCredentialSpec", .text),
  ("gmsaCredentialSpecName", .text),
  ("hostProcess", .flag),
  ("runAsUserName", .text)]

end Shape

structure ObjectFieldSelector where
  apiVersion : Option String := none
  fieldPath : String := ""
  deriving DecidableEq, Inhabited

instance : ToJson ObjectFieldSelector where
  toJson r := .record [
    ("apiVersion", r.apiVersion.map toJson),
    ("fieldPath", some (toJson r.fieldPath))]

instance : OfJson ObjectFieldSelector := ⟨.object "ObjectFieldSelector" {} [
  .optional "apiVersion" fun r v => { r with apiVersion := v },
  .lenient "fieldPath" "" fun r v => { r with fieldPath := v }]⟩

structure EnvVarSource where
  configMapKeyRef : Option (Carried (.keySelector "ConfigMapKeySelector")) := none
  fieldRef : Option ObjectFieldSelector := none
  resourceFieldRef : Option (Carried .resourceFieldSelector) := none
  secretKeyRef : Option (Carried (.keySelector "SecretKeySelector")) := none
  deriving DecidableEq, Inhabited

instance : ToJson EnvVarSource where
  toJson r := .record [
    ("configMapKeyRef", r.configMapKeyRef.map toJson),
    ("fieldRef", r.fieldRef.map toJson),
    ("resourceFieldRef", r.resourceFieldRef.map toJson),
    ("secretKeyRef", r.secretKeyRef.map toJson)]

instance : OfJson EnvVarSource := ⟨.object "EnvVarSource" {} [
  .optional "configMapKeyRef" fun r v => { r with configMapKeyRef := v },
  .optional "fieldRef" fun r v => { r with fieldRef := v },
  .optional "resourceFieldRef" fun r v => { r with resourceFieldRef := v },
  .optional "secretKeyRef" fun r v => { r with secretKeyRef := v }]⟩

structure EnvVar where
  name : String := ""
  value : Option String := none
  valueFrom : Option EnvVarSource := none
  deriving DecidableEq, Inhabited

instance : ToJson EnvVar where
  toJson r := .record [
    ("name", some (toJson r.name)),
    ("value", r.value.map toJson),
    ("valueFrom", r.valueFrom.map toJson)]

instance : OfJson EnvVar := ⟨.object "EnvVar" {} [
  .lenient "name" "" fun r v => { r with name := v },
  .optional "value" fun r v => { r with value := v },
  .optional "valueFrom" fun r v => { r with valueFrom := v }]⟩

structure Capabilities where
  add : Option (List String) := none
  drop : Option (List String) := none
  deriving DecidableEq, Inhabited

instance : ToJson Capabilities where
  toJson r := .record [
    ("add", r.add.map toJson),
    ("drop", r.drop.map toJson)]

instance : OfJson Capabilities := ⟨.object "Capabilities" {} [
  .optional "add" fun r v => { r with add := v },
  .optional "drop" fun r v => { r with drop := v }]⟩

structure SeccompProfile where
  localhostProfile : Option String := none
  profileType : String := ""
  deriving DecidableEq, Inhabited

instance : ToJson SeccompProfile where
  toJson r := .record [
    ("localhostProfile", r.localhostProfile.map toJson),
    ("type", some (toJson r.profileType))]

instance : OfJson SeccompProfile := ⟨.object "SeccompProfile" {} [
  .optional "localhostProfile" fun r v => { r with localhostProfile := v },
  .lenient "type" "" fun r v => { r with profileType := v }]⟩

structure SecurityContext where
  allowPrivilegeEscalation : Option Bool := none
  appArmorProfile : Option (Carried (.securityProfile "AppArmorProfile")) := none
  capabilities : Option Capabilities := none
  privileged : Option Bool := none
  procMount : Option String := none
  readOnlyRootFilesystem : Option Bool := none
  runAsGroup : Option Int64 := none
  runAsNonRoot : Option Bool := none
  runAsUser : Option Int64 := none
  seLinuxOptions : Option (Carried .seLinuxOptions) := none
  seccompProfile : Option SeccompProfile := none
  windowsOptions : Option (Carried .windowsOptions) := none
  deriving DecidableEq, Inhabited

instance : ToJson SecurityContext where
  toJson r := .record [
    ("allowPrivilegeEscalation", r.allowPrivilegeEscalation.map toJson),
    ("appArmorProfile", r.appArmorProfile.map toJson),
    ("capabilities", r.capabilities.map toJson),
    ("privileged", r.privileged.map toJson),
    ("procMount", r.procMount.map toJson),
    ("readOnlyRootFilesystem", r.readOnlyRootFilesystem.map toJson),
    ("runAsGroup", r.runAsGroup.map toJson),
    ("runAsNonRoot", r.runAsNonRoot.map toJson),
    ("runAsUser", r.runAsUser.map toJson),
    ("seLinuxOptions", r.seLinuxOptions.map toJson),
    ("seccompProfile", r.seccompProfile.map toJson),
    ("windowsOptions", r.windowsOptions.map toJson)]

instance : OfJson SecurityContext := ⟨.object "SecurityContext" {} [
  .optional "allowPrivilegeEscalation" fun r v => { r with allowPrivilegeEscalation := v },
  .optional "appArmorProfile" fun r v => { r with appArmorProfile := v },
  .optional "capabilities" fun r v => { r with capabilities := v },
  .optional "privileged" fun r v => { r with privileged := v },
  .optional "procMount" fun r v => { r with procMount := v },
  .optional "readOnlyRootFilesystem" fun r v => { r with readOnlyRootFilesystem := v },
  .optional "runAsGroup" fun r v => { r with runAsGroup := v },
  .optional "runAsNonRoot" fun r v => { r with runAsNonRoot := v },
  .optional "runAsUser" fun r v => { r with runAsUser := v },
  .optional "seLinuxOptions" fun r v => { r with seLinuxOptions := v },
  .optional "seccompProfile" fun r v => { r with seccompProfile := v },
  .optional "windowsOptions" fun r v => { r with windowsOptions := v }]⟩

structure ContainerPort where
  containerPort : Int32 := 0
  hostIP : Option String := none
  hostPort : Option Int32 := none
  name : Option String := none
  protocol : Option String := none
  deriving DecidableEq, Inhabited

instance : ToJson ContainerPort where
  toJson r := .record [
    ("containerPort", some (toJson r.containerPort)),
    ("hostIP", r.hostIP.map toJson),
    ("hostPort", r.hostPort.map toJson),
    ("name", r.name.map toJson),
    ("protocol", r.protocol.map toJson)]

instance : OfJson ContainerPort := ⟨.object "ContainerPort" {} [
  .lenient "containerPort" 0 fun r v => { r with containerPort := v },
  .optional "hostIP" fun r v => { r with hostIP := v },
  .optional "hostPort" fun r v => { r with hostPort := v },
  .optional "name" fun r v => { r with name := v },
  .optional "protocol" fun r v => { r with protocol := v }]⟩

structure VolumeMount where
  mountPath : String := ""
  mountPropagation : Option String := none
  name : String := ""
  readOnly : Option Bool := none
  recursiveReadOnly : Option String := none
  subPath : Option String := none
  subPathExpr : Option String := none
  deriving DecidableEq, Inhabited

instance : ToJson VolumeMount where
  toJson r := .record [
    ("mountPath", some (toJson r.mountPath)),
    ("mountPropagation", r.mountPropagation.map toJson),
    ("name", some (toJson r.name)),
    ("readOnly", r.readOnly.map toJson),
    ("recursiveReadOnly", r.recursiveReadOnly.map toJson),
    ("subPath", r.subPath.map toJson),
    ("subPathExpr", r.subPathExpr.map toJson)]

instance : OfJson VolumeMount := ⟨.object "VolumeMount" {} [
  .lenient "mountPath" "" fun r v => { r with mountPath := v },
  .optional "mountPropagation" fun r v => { r with mountPropagation := v },
  .lenient "name" "" fun r v => { r with name := v },
  .optional "readOnly" fun r v => { r with readOnly := v },
  .optional "recursiveReadOnly" fun r v => { r with recursiveReadOnly := v },
  .optional "subPath" fun r v => { r with subPath := v },
  .optional "subPathExpr" fun r v => { r with subPathExpr := v }]⟩

structure Probe where
  exec : Option (Carried .execAction) := none
  failureThreshold : Option Int32 := none
  grpc : Option (Carried .grpcAction) := none
  httpGet : Option (Carried .httpGetAction) := none
  initialDelaySeconds : Option Int32 := none
  periodSeconds : Option Int32 := none
  successThreshold : Option Int32 := none
  tcpSocket : Option (Carried .tcpSocketAction) := none
  terminationGracePeriodSeconds : Option Int64 := none
  timeoutSeconds : Option Int32 := none
  deriving DecidableEq, Inhabited

instance : ToJson Probe where
  toJson r := .record [
    ("exec", r.exec.map toJson),
    ("failureThreshold", r.failureThreshold.map toJson),
    ("grpc", r.grpc.map toJson),
    ("httpGet", r.httpGet.map toJson),
    ("initialDelaySeconds", r.initialDelaySeconds.map toJson),
    ("periodSeconds", r.periodSeconds.map toJson),
    ("successThreshold", r.successThreshold.map toJson),
    ("tcpSocket", r.tcpSocket.map toJson),
    ("terminationGracePeriodSeconds", r.terminationGracePeriodSeconds.map toJson),
    ("timeoutSeconds", r.timeoutSeconds.map toJson)]

instance : OfJson Probe := ⟨.object "Probe" {} [
  .optional "exec" fun r v => { r with exec := v },
  .optional "failureThreshold" fun r v => { r with failureThreshold := v },
  .optional "grpc" fun r v => { r with grpc := v },
  .optional "httpGet" fun r v => { r with httpGet := v },
  .optional "initialDelaySeconds" fun r v => { r with initialDelaySeconds := v },
  .optional "periodSeconds" fun r v => { r with periodSeconds := v },
  .optional "successThreshold" fun r v => { r with successThreshold := v },
  .optional "tcpSocket" fun r v => { r with tcpSocket := v },
  .optional "terminationGracePeriodSeconds" fun r v =>
    { r with terminationGracePeriodSeconds := v },
  .optional "timeoutSeconds" fun r v => { r with timeoutSeconds := v }]⟩

structure Container where
  args : Option (List String) := none
  command : Option (List String) := none
  env : Option (List EnvVar) := none
  envFrom : Option (Carried (.list .envFromSource)) := none
  image : Option String := none
  imagePullPolicy : Option String := none
  lifecycle : Option (Carried .lifecycle) := none
  livenessProbe : Option Probe := none
  name : String := ""
  ports : Option (List ContainerPort) := none
  readinessProbe : Option Probe := none
  resizePolicy : Option (Carried (.list .containerResizePolicy)) := none
  resources : Option ResourceRequirements := none
  restartPolicy : Option String := none
  securityContext : Option SecurityContext := none
  startupProbe : Option Probe := none
  stdin : Option Bool := none
  stdinOnce : Option Bool := none
  terminationMessagePath : Option String := none
  terminationMessagePolicy : Option String := none
  tty : Option Bool := none
  volumeDevices : Option (Carried (.list .volumeDevice)) := none
  volumeMounts : Option (List VolumeMount) := none
  workingDir : Option String := none
  deriving DecidableEq, Inhabited

instance : ToJson Container where
  toJson r := .record [
    ("args", r.args.map toJson),
    ("command", r.command.map toJson),
    ("env", r.env.map toJson),
    ("envFrom", r.envFrom.map toJson),
    ("image", r.image.map toJson),
    ("imagePullPolicy", r.imagePullPolicy.map toJson),
    ("lifecycle", r.lifecycle.map toJson),
    ("livenessProbe", r.livenessProbe.map toJson),
    ("name", some (toJson r.name)),
    ("ports", r.ports.map toJson),
    ("readinessProbe", r.readinessProbe.map toJson),
    ("resizePolicy", r.resizePolicy.map toJson),
    ("resources", r.resources.map toJson),
    ("restartPolicy", r.restartPolicy.map toJson),
    ("securityContext", r.securityContext.map toJson),
    ("startupProbe", r.startupProbe.map toJson),
    ("stdin", r.stdin.map toJson),
    ("stdinOnce", r.stdinOnce.map toJson),
    ("terminationMessagePath", r.terminationMessagePath.map toJson),
    ("terminationMessagePolicy", r.terminationMessagePolicy.map toJson),
    ("tty", r.tty.map toJson),
    ("volumeDevices", r.volumeDevices.map toJson),
    ("volumeMounts", r.volumeMounts.map toJson),
    ("workingDir", r.workingDir.map toJson)]

instance : OfJson Container := ⟨.object "Container" {} [
  .optional "args" fun r v => { r with args := v },
  .optional "command" fun r v => { r with command := v },
  .optional "env" fun r v => { r with env := v },
  .optional "envFrom" fun r v => { r with envFrom := v },
  .optional "image" fun r v => { r with image := v },
  .optional "imagePullPolicy" fun r v => { r with imagePullPolicy := v },
  .optional "lifecycle" fun r v => { r with lifecycle := v },
  .optional "livenessProbe" fun r v => { r with livenessProbe := v },
  .lenient "name" "" fun r v => { r with name := v },
  .optional "ports" fun r v => { r with ports := v },
  .optional "readinessProbe" fun r v => { r with readinessProbe := v },
  .optional "resizePolicy" fun r v => { r with resizePolicy := v },
  .optional "resources" fun r v => { r with resources := v },
  .optional "restartPolicy" fun r v => { r with restartPolicy := v },
  .optional "securityContext" fun r v => { r with securityContext := v },
  .optional "startupProbe" fun r v => { r with startupProbe := v },
  .optional "stdin" fun r v => { r with stdin := v },
  .optional "stdinOnce" fun r v => { r with stdinOnce := v },
  .optional "terminationMessagePath" fun r v => { r with terminationMessagePath := v },
  .optional "terminationMessagePolicy" fun r v => { r with terminationMessagePolicy := v },
  .optional "tty" fun r v => { r with tty := v },
  .optional "volumeDevices" fun r v => { r with volumeDevices := v },
  .optional "volumeMounts" fun r v => { r with volumeMounts := v },
  .optional "workingDir" fun r v => { r with workingDir := v }]⟩

namespace Shape

/-! What an ephemeral container is made of is as for other containers. -/

def envVarSource : Shape := .record "EnvVarSource" [] [
  ("configMapKeyRef", keySelector "ConfigMapKeySelector"),
  ("fieldRef", objectFieldSelector),
  ("resourceFieldRef", resourceFieldSelector),
  ("secretKeyRef", keySelector "SecretKeySelector")]

def envVar : Shape := .record "EnvVar"
  [("name", .text)]
  [("value", .text), ("valueFrom", envVarSource)]

def capabilities : Shape := .record "Capabilities" []
  [("add", .list .text), ("drop", .list .text)]

def securityContext : Shape := .record "SecurityContext" [] [
  ("allowPrivilegeEscalation", .flag),
  ("appArmorProfile", securityProfile "AppArmorProfile"),
  ("capabilities", capabilities),
  ("privileged", .flag),
  ("procMount", .text),
  ("readOnlyRootFilesystem", .flag),
  ("runAsGroup", .int64),
  ("runAsNonRoot", .flag),
  ("runAsUser", .int64),
  ("seLinuxOptions", seLinuxOptions),
  ("seccompProfile", securityProfile "SeccompProfile"),
  ("windowsOptions", windowsOptions)]

def containerPort : Shape := .record "ContainerPort"
  [("containerPort", .int32)]
  [("hostIP", .text), ("hostPort", .int32), ("name", .text), ("protocol", .text)]

def volumeMount : Shape := .record "VolumeMount"
  [("mountPath", .text), ("name", .text)]
  [("mountPropagation", .text), ("readOnly", .flag), ("recursiveReadOnly", .text),
    ("subPath", .text), ("subPathExpr", .text)]

def probe : Shape := .record "Probe" [] [
  ("exec", execAction),
  ("failureThreshold", .int32),
  ("grpc", grpcAction),
  ("httpGet", httpGetAction),
  ("initialDelaySeconds", .int32),
  ("periodSeconds", .int32),
  ("successThreshold", .int32),
  ("tcpSocket", tcpSocketAction),
  ("terminationGracePeriodSeconds", .int64),
  ("timeoutSeconds", .int32)]

def resourceClaim : Shape := .record "ResourceClaim" [("name", .text)] [("request", .text)]

def resourceRequirements : Shape := .record "ResourceRequirements" [] [
  ("claims", .list resourceClaim),
  ("limits", .map .quantity),
  ("requests", .map .quantity)]

def ephemeralContainer : Shape := .record "EphemeralContainer"
  [("name", .text)] [
  ("args", .list .text),
  ("command", .list .text),
  ("env", .list envVar),
  ("envFrom", .list envFromSource),
  ("image", .text),
  ("imagePullPolicy", .text),
  ("lifecycle", lifecycle),
  ("livenessProbe", probe),
  ("ports", .list containerPort),
  ("readinessProbe", probe),
  ("resizePolicy", .list containerResizePolicy),
  ("resources", resourceRequirements),
  ("restartPolicy", .text),
  ("securityContext", securityContext),
  ("startupProbe", probe),
  ("stdin", .flag),
  ("stdinOnce", .flag),
  ("targetContainerName", .text),
  ("terminationMessagePath", .text),
  ("terminationMessagePolicy", .text),
  ("tty", .flag),
  ("volumeDevices", .list volumeDevice),
  ("volumeMounts", .list volumeMount),
  ("workingDir", .text)]

end Shape

end AutoscalerOperator.Kubernetes
