import AutoscalerOperator.Json.Record
import AutoscalerOperator.Quantity

namespace AutoscalerOperator.Kubernetes

structure ResourceClaim where
  name : String := ""
  request : Option String := none
  deriving DecidableEq, Inhabited

instance : ToJson ResourceClaim where
  toJson r := .record [
    ("name", some (toJson r.name)),
    ("request", r.request.map toJson)]

instance : OfJson ResourceClaim := ⟨.object "ResourceClaim" {} [
  .lenient "name" "" fun r v => { r with name := v },
  .optional "request" fun r v => { r with request := v }]⟩

structure ResourceRequirements where
  limits : Option (SortedMap Quantity) := none
  requests : Option (SortedMap Quantity) := none
  claims : Option (List ResourceClaim) := none
  deriving DecidableEq, Inhabited

instance : ToJson ResourceRequirements where
  toJson r := .record [
    ("claims", r.claims.map toJson),
    ("limits", r.limits.map toJson),
    ("requests", r.requests.map toJson)]

instance : OfJson ResourceRequirements := ⟨.object "ResourceRequirements" {} [
  .optional "claims" fun r v => { r with claims := v },
  .optional "limits" fun r v => { r with limits := v },
  .optional "requests" fun r v => { r with requests := v }]⟩

/-- Whether any requirement is stated. A part that is present but empty states none. -/
def ResourceRequirements.isStated (r : ResourceRequirements) : Bool :=
  (r.limits.any fun limits => !limits.isEmpty) ||
    (r.requests.any fun requests => !requests.isEmpty) ||
    (r.claims.any fun claims => !claims.isEmpty)

end AutoscalerOperator.Kubernetes
