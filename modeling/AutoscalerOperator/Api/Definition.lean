import AutoscalerOperator.Api.Request
import AutoscalerOperator.Api.Response
import AutoscalerOperator.Api.SchemaAnswer
import AutoscalerOperator.Controller.Definition
import AutoscalerOperator.Kubernetes.ConfigMap

namespace AutoscalerOperator

open Kubernetes

namespace Api

def definitionRequest : Request :=
  .read (resourcePath "apiextensions.k8s.io/v1" none "customresourcedefinitions" ++ "/" ++
    AutoscalerController.definitionName)

/-! The definition of a kind as the server answers with it. Only that it can be read is of
interest. -/

namespace DefinitionAnswer

open SchemaAnswer (text flag texts)

def service : Decoder Unit :=
  .object "ServiceReference" () <|
    .checked (OfJson.decoder : Decoder Int32) "port" ::
      ["name", "namespace", "path"].map (.checked text)

def client : Decoder Unit := .object "WebhookClientConfig" () [
  .checked (OfJson.decoder : Decoder ByteString) "caBundle",
  .checked service "service",
  .checked text "url"]

def webhook : Decoder Unit := .object "WebhookConversion" () [
  .checked client "clientConfig",
  .checked texts "conversionReviewVersions"]

def conversion : Decoder Unit := .object "CustomResourceConversion" () [
  .checked text "strategy",
  .checked webhook "webhook"]

def names : Decoder Unit :=
  .object "CustomResourceDefinitionNames" () <|
    ["categories", "shortNames"].map (.checked texts) ++
      ["kind", "listKind", "plural", "singular"].map (.checked text)

def column : Decoder Unit :=
  .object "CustomResourceColumnDefinition" () <|
    .checked (OfJson.decoder : Decoder Int32) "priority" ::
      ["description", "format", "jsonPath", "name", "type"].map (.checked text)

def validation : Decoder Unit :=
  .object "CustomResourceValidation" () [.checked (schemaAnswer nestingLimit) "openAPIV3Schema"]

def selectable : Decoder Unit := .object "SelectableField" () [.checked text "jsonPath"]

def scale : Decoder Unit :=
  .object "CustomResourceSubresourceScale" () <|
    ["labelSelectorPath", "specReplicasPath", "statusReplicasPath"].map (.checked text)

def subresources : Decoder Unit := .object "CustomResourceSubresources" () [
  .checked scale "scale",
  .checked (OfJson.decoder : Decoder Json) "status"]

def version : Decoder Unit :=
  .object "CustomResourceDefinitionVersion" () <| [
    .checked column.list "additionalPrinterColumns",
    .checked validation "schema",
    .checked selectable.list "selectableFields",
    .checked subresources "subresources"] ++
      ["deprecated", "served", "storage"].map (.checked flag) ++
      ["deprecationWarning", "name"].map (.checked text)

def spec : Decoder Unit := .object "CustomResourceDefinitionSpec" () [
  .checked conversion "conversion",
  .checked text "group",
  .checked names "names",
  .checked flag "preserveUnknownFields",
  .checked text "scope",
  .checked version.list "versions"]

def condition : Decoder Unit :=
  .object "CustomResourceDefinitionCondition" () <|
    .checked (OfJson.decoder : Decoder Instant) "lastTransitionTime" ::
      ["message", "reason", "status", "type"].map (.checked text)

def status : Decoder Unit := .object "CustomResourceDefinitionStatus" () [
  .checked names "acceptedNames",
  .checked condition.list "conditions",
  .checked texts "storedVersions"]

end DefinitionAnswer

structure DefinitionAnswer where

instance : OfJson DefinitionAnswer := ⟨.object "CustomResourceDefinition" {} [
  .fixed "apiVersion" "apiextensions.k8s.io/v1",
  .fixed "kind" "CustomResourceDefinition",
  .checked (OfJson.decoder : Decoder ObjectMeta) "metadata",
  .checked DefinitionAnswer.spec "spec",
  .checked DefinitionAnswer.status "status"]⟩

end Api

end AutoscalerOperator
