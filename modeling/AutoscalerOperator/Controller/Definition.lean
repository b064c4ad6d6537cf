import AutoscalerOperator.Controller.Instance
import AutoscalerOperator.Controller.Schema

namespace AutoscalerOperator

open Kubernetes

namespace AutoscalerController

def group : String := "autoscaling.openshift.io"

def version : String := "v1"

def plural : String := "verticalpodautoscalercontrollers"

def definitionName : String := plural ++ "." ++ group

def resourcesSchema : Schema :=
  let amounts := .map .string
  let claim := .object [("name", .string), ("request", .string)] ["name"]
  .object [("claims", .array claim), ("limits", amounts), ("requests", amounts)] []

def tolerationSchema : Schema := .object [
  ("effect", .string),
  ("key", .string),
  ("operator", .string),
  ("tolerationSeconds", .int64),
  ("value", .string)] []

def containerSchema : Schema :=
  .withDefault (toJson ({} : ContainerOverride)) <| .object [
    ("args", .array .string),
    ("resources", .nullable resourcesSchema)] []

def overrideSchema : Schema :=
  .withDefault (toJson ({} : DeploymentOverride)) <| .object [
    ("container", containerSchema),
    ("nodeSelector", .map .string),
    ("tolerations", .array tolerationSchema)] []

def overridesSchema : Schema :=
  .withDefault (toJson ({} : DeploymentOverrides)) <| .object [
    ("admission", overrideSchema),
    ("recommender", overrideSchema),
    ("updater", overrideSchema)] []

def specSchema : Schema := .object [
  ("deploymentOverrides", overridesSchema),
  ("minReplicas", .nullable (.atLeast 1 .int64)),
  ("podMinCPUMillicores", .nullable (.atLeast 0 .double)),
  ("podMinMemoryMb", .nullable (.atLeast 0 .double)),
  ("recommendationOnly", .nullable .boolean),
  ("safetyMarginFraction", .nullable (.atLeast 0 .double))] []

def schema : Schema :=
  .titled kindName <| .object [
    ("spec", specSchema),
    ("status", .nullable (.object [] []))] ["spec"]

def definitionNames : Json := .obj [
  ("categories", .arr []),
  ("kind", .str kindName),
  ("plural", .str plural),
  ("shortNames", .arr [.str "vpac"]),
  ("singular", .str "verticalpodautoscalercontroller")]

def definitionVersion : Json := .obj [
  ("additionalPrinterColumns", .arr []),
  ("name", .str version),
  ("schema", .obj [("openAPIV3Schema", toJson schema)]),
  ("served", .bool true),
  ("storage", .bool true),
  ("subresources", .obj [("status", .obj [])])]

def definition : Json := .obj [
  ("apiVersion", .str "apiextensions.k8s.io/v1"),
  ("kind", .str "CustomResourceDefinition"),
  ("metadata", .obj [("name", .str definitionName)]),
  ("spec", .obj [
    ("group", .str group),
    ("names", definitionNames),
    ("scope", .str "Namespaced"),
    ("versions", .arr [definitionVersion])])]

end AutoscalerController

end AutoscalerOperator
