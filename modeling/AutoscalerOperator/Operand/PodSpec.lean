import AutoscalerOperator.Operand.Args

namespace AutoscalerOperator

open Kubernetes

namespace Operand

def admissionPort : Int32 := 8000

def certificateSecret : String := "vpa-tls-certs"

def authorityConfigMap : String := "vpa-tls-ca-certs"

def baseContainer (operand : Operand) (args : List String) (config : Config) : Container where
  name := "vertical-pod-autoscaler"
  image := some config.image
  imagePullPolicy := some "Always"
  command := some [operand.command]
  args := some args
  env := some [{
    name := "NAMESPACE"
    valueFrom := some
      { fieldRef := some { apiVersion := some "v1", fieldPath := "metadata.namespace" } } }]
  resources := some { requests := some (.ofList [("cpu", ⟨"25m"⟩), ("memory", ⟨"25Mi"⟩)]) }
  securityContext := some {
    allowPrivilegeEscalation := some false
    capabilities := some { drop := some ["ALL"] }
    runAsNonRoot := some true
    seccompProfile := some { profileType := "RuntimeDefault" } }
  terminationMessagePath := some "/dev/termination-log"
  terminationMessagePolicy := some "File"

def baseNodeSelector : Labels :=
  .ofList [("beta.kubernetes.io/os", "linux"), ("node-role.kubernetes.io/master", "")]

def baseTolerations : List Toleration :=
  [{ key := some "CriticalAddonsOnly", operator := some "Exists" },
    { key := some "node-role.kubernetes.io/master", effect := some "NoSchedule",
      operator := some "Exists" }]

/-- A container with an instance's override applied: its resources if it states any, and its
    arguments after all others. -/
def overriddenContainer (container : Container) (o : ContainerOverride) : Container :=
  { container with
    resources := o.statedResources.or container.resources
    args :=
      if o.args.isEmpty then container.args else some (container.args.getD [] ++ o.args) }

def withAdmissionMounts (container : Container) : Container :=
  { container with
    ports := some (container.ports.getD [] ++
      [{ containerPort := admissionPort, protocol := some "TCP" }])
    volumeMounts := some (container.volumeMounts.getD [] ++
      [{ name := "tls-certs", mountPath := certificatesPath, readOnly := some true },
        { name := "tls-ca-certs", mountPath := authoritiesPath, readOnly := some true }]) }

def admissionVolumes : List Volume :=
  [{ name := "tls-certs"
     secret := some { secretName := some certificateSecret, defaultMode := some 0o644 } },
    { name := "tls-ca-certs"
      configMap := some { name := authorityConfigMap, defaultMode := some 0o644 } }]

def container (operand : Operand) (spec : ControllerSpec) (config : Config) : Container :=
  let overridden := overriddenContainer (operand.baseContainer (operand.args spec config) config)
    (operand.overrideIn spec).container
  if operand = .admission then withAdmissionMounts overridden else overridden

def podSpec (operand : Operand) (spec : ControllerSpec) (config : Config) : PodSpec :=
  let o := operand.overrideIn spec
  { containers := [operand.container spec config]
    serviceAccount := some operand.serviceAccount
    serviceAccountName := some operand.serviceAccount
    priorityClassName := some "system-cluster-critical"
    nodeSelector := some (if o.nodeSelector.isEmpty then baseNodeSelector else o.nodeSelector)
    tolerations := some (if o.tolerations.isEmpty then baseTolerations else o.tolerations)
    volumes := if operand = .admission then some admissionVolumes else none
    securityContext := some {}
    dnsPolicy := some "ClusterFirst"
    restartPolicy := some "Always"
    terminationGracePeriodSeconds := some 30
    schedulerName := some "default-scheduler" }

end Operand

end AutoscalerOperator
