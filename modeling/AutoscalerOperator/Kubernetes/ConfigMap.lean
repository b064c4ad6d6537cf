import AutoscalerOperator.Kubernetes.Metadata
import AutoscalerOperator.Text.Base64

namespace AutoscalerOperator.Kubernetes

structure ByteString where
  base64 : String
  deriving DecidableEq, Inhabited

instance : ToJson ByteString := ⟨fun bytes => toJson bytes.base64⟩

instance : OfJson ByteString := ⟨.simple fun
  | .null => .ok ⟨""⟩
  | .str text => do
    (Text.Base64.check text.toUTF8.toList).mapError .base64
    return ⟨text⟩
  | json => json.mismatch "a base64-encoded string"⟩

structure ConfigMap where
  metadata : ObjectMeta := {}
  data : Option Labels := none
  binaryData : Option (SortedMap ByteString) := none
  immutable : Option Bool := none
  deriving DecidableEq, Inhabited

instance : ToJson ConfigMap where
  toJson c := .record [
    ("apiVersion", some (.str "v1")),
    ("binaryData", c.binaryData.map toJson),
    ("data", c.data.map toJson),
    ("immutable", c.immutable.map toJson),
    ("kind", some (.str "ConfigMap")),
    ("metadata", some (toJson c.metadata))]

instance : OfJson ConfigMap := ⟨.object "ConfigMap" {} [
  .fixed "apiVersion" "v1",
  .optional "binaryData" fun r v => { r with binaryData := v },
  .optional "data" fun r v => { r with data := v },
  .optional "immutable" fun r v => { r with immutable := v },
  .fixed "kind" "ConfigMap",
  .lenient "metadata" {} fun r v => { r with metadata := v }]⟩

end AutoscalerOperator.Kubernetes
