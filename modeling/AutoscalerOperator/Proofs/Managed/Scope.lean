import AutoscalerOperator.Proofs.Json.Congruence
import AutoscalerOperator.Proofs.Managed.Settled

namespace AutoscalerOperator

open Kubernetes

namespace Kubernetes

def Deployment.asking (d : Deployment) (replicas : Option Int32) (pods : Option PodSpec) :
    Deployment :=
  let spec := d.spec.getD {}
  { d with spec := some { spec with replicas, template := { spec.template with spec := pods } } }

def Service.asking (s : Service) (ports : Option (List ServicePort)) (selector : Option Labels) :
    Service :=
  { s with spec := some { s.spec.getD {} with ports, selector } }

theorem Deployment.stamped_asking (d : Deployment) (replicas : Option Int32) (pods : Option PodSpec)
    (release : String) :
    (((d.asking none none).stamped "").asking replicas pods).stamped release =
      (d.asking replicas pods).stamped release :=
  (d.asking replicas pods).stamped_again "" release

theorem Service.stamped_asking (s : Service) (ports : Option (List ServicePort))
    (selector : Option Labels) (release secret : String) :
    (((s.asking none none).stamped "" secret).asking ports selector).stamped release secret =
      (s.asking ports selector).stamped release secret :=
  (s.asking ports selector).stamped_again "" release secret

end Kubernetes

theorem member_of_semanticEq {α : Type} [ToJson α] {left right : α} {key : String}
    (plain : Json.Place.member {} key = {}) (same : semanticEq left right = true) :
    (toJson left).normal? (Json.Place.member {} key) =
      (toJson right).normal? (Json.Place.member {} key) := by
  rw [plain]
  exact semanticEq_iff.mp same

theorem semanticEq_template (template : PodTemplateSpec) {left right : Option PodSpec}
    (same : semanticEq left right = true) :
    semanticEq { template with spec := left } { template with spec := right } = true := by
  have pods : (left.map toJson).bind (Json.normal? (Json.Place.member {} "spec")) =
      (right.map toJson).bind (Json.normal? (Json.Place.member {} "spec")) := by
    rw [Json.bind_toJson, Json.bind_toJson]
    exact member_of_semanticEq (by decide) same
  refine semanticEq_iff.mpr (Json.normal?_record_congr (by simp) ?_)
  simp only [Json.said, List.map_cons, pods]

theorem semanticEq_deploymentSpec (spec : DeploymentSpec) {left right : PodTemplateSpec}
    (same : semanticEq left right = true) :
    semanticEq { spec with template := left } { spec with template := right } = true := by
  have template := member_of_semanticEq (by decide : Json.Place.member {} "template" = {}) same
  refine semanticEq_iff.mpr (Json.normal?_record_congr (by simp) ?_)
  simp only [Json.said, List.map_cons, Option.bind_some, template]

theorem semanticEq_deployment (d : Deployment) {left right : DeploymentSpec}
    (same : semanticEq left right = true) :
    semanticEq { d with spec := some left } { d with spec := some right } = true := by
  have spec := member_of_semanticEq (by decide : Json.Place.member {} "spec" = {}) same
  refine semanticEq_iff.mpr (Json.normal?_record_congr (by simp) ?_)
  simp only [Json.said, List.map_cons, Option.map_some, Option.bind_some, spec]

theorem semanticEq_serviceSpec (spec : ServiceSpec) {ports ports' : Option (List ServicePort)}
    {selector selector' : Option Labels} (samePorts : semanticEq ports ports' = true)
    (sameSelector : semanticEq selector selector' = true) :
    semanticEq { spec with ports, selector } { spec with ports := ports', selector := selector' } =
      true := by
  have first := member_of_semanticEq (by decide : Json.Place.member {} "ports" = {}) samePorts
  have second :=
    member_of_semanticEq (by decide : Json.Place.member {} "selector" = {}) sameSelector
  refine semanticEq_iff.mpr (Json.normal?_record_congr (by simp) ?_)
  simp only [Json.said, List.map_cons, Json.bind_toJson, first, second]

theorem semanticEq_service (s : Service) {left right : ServiceSpec}
    (same : semanticEq left right = true) :
    semanticEq { s with spec := some left } { s with spec := some right } = true := by
  have spec := member_of_semanticEq (by decide : Json.Place.member {} "spec" = {}) same
  refine semanticEq_iff.mpr (Json.normal?_record_congr (by simp) ?_)
  simp only [Json.said, List.map_cons, Option.map_some, Option.bind_some, spec]

theorem semanticEq_asking_deployment (d : Deployment) (replicas : Option Int32) (release : String)
    {left right : Option PodSpec} (same : semanticEq left right = true) :
    semanticEq ((d.asking replicas left).stamped release)
      ((d.asking replicas right).stamped release) = true := by
  let whole := (d.asking replicas none).stamped release
  let spec := whole.spec.getD {}
  have template := semanticEq_template spec.template same
  exact semanticEq_deployment whole (semanticEq_deploymentSpec spec template)

theorem semanticEq_asking_service (s : Service) (release secret : String)
    {ports ports' : Option (List ServicePort)} {selector selector' : Option Labels}
    (samePorts : semanticEq ports ports' = true)
    (sameSelector : semanticEq selector selector' = true) :
    semanticEq ((s.asking ports selector).stamped release secret)
      ((s.asking ports' selector').stamped release secret) = true := by
  let whole := (s.asking none none).stamped release secret
  have spec := semanticEq_serviceSpec (s.spec.getD {}) samePorts sameSelector
  exact semanticEq_service whole spec

namespace ManagedKind

variable {managed : ManagedKind}

/-- What is left of an object without the fields that the operator owns. -/
def bare : (managed : ManagedKind) → managed.Object → managed.Object
  | .deployment, d => (Deployment.asking d none none).stamped ""
  | .service, s => (Service.asking s none none).stamped "" Operand.certificateSecret
  | .configMap, c => ConfigMap.stamped c ""

theorem bare_converge (current desired : managed.Object) :
    managed.bare (managed.converge current desired).value = managed.bare current := by
  cases managed with
  | deployment => exact Deployment.stamped_again (Deployment.asking current none none) _ ""
  | service => exact Service.stamped_again (Service.asking current none none) _ "" _
  | configMap => exact ConfigMap.stamped_again current _ ""

theorem semanticEq_converge {left right : managed.Object}
    (same : managed.bare left = managed.bare right) (desired : managed.Object) :
    semanticEq (managed.converge left desired).value (managed.converge right desired).value =
      true := by
  cases managed with
  | deployment =>
    let want := Deployment.spec desired |>.getD {}
    have asked (d : Deployment) : (convergeDeployment d desired).value =
        ((bare .deployment d).asking want.replicas
          (Merged.adopt (d.spec.getD {}).template.spec want.template.spec).value).stamped
            (Deployment.metadata desired).release :=
      (d.stamped_asking _ _ _).symm
    change semanticEq (convergeDeployment left desired).value
      (convergeDeployment right desired).value = true
    rw [asked, asked, same]
    exact semanticEq_asking_deployment _ _ _ (Merged.semanticEq_adopts ..)
  | service =>
    let want := Service.spec desired |>.getD {}
    have asked (s : Service) : (convergeService s desired).value =
        ((bare .service s).asking (Merged.adopt (s.spec.getD {}).ports want.ports).value
          (Merged.adopt (s.spec.getD {}).selector want.selector).value).stamped
            (Service.metadata desired).release Operand.certificateSecret :=
      (s.stamped_asking _ _ _ _).symm
    change semanticEq (convergeService left desired).value (convergeService right desired).value =
      true
    rw [asked, asked, same]
    exact semanticEq_asking_service _ _ _ (Merged.semanticEq_adopts ..)
      (Merged.semanticEq_adopts ..)
  | configMap =>
    have asked (c : ConfigMap) : (convergeConfigMap c desired).value =
        (bare .configMap c).stamped (ConfigMap.metadata desired).release :=
      (c.stamped_again _ _).symm
    change semanticEq (convergeConfigMap left desired).value
      (convergeConfigMap right desired).value = true
    rw [asked, asked, same]
    exact semanticEq_refl _

theorem semanticEq_converge_converge (current early late : managed.Object) :
    semanticEq (managed.converge (managed.converge current early).value late).value
      (managed.converge current late).value = true :=
  semanticEq_converge (bare_converge current early) late

end ManagedKind

end AutoscalerOperator
