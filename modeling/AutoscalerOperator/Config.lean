import AutoscalerOperator.Text.Blank
import AutoscalerOperator.Text.Numeral

namespace AutoscalerOperator

structure Config where
  releaseVersion : String := ""
  watchNamespace : String := "openshift-vertical-pod-autoscaler"
  operandNamespace : String := "openshift-vertical-pod-autoscaler"
  name : String := "default"
  image : String := "quay.io/openshift/origin-vertical-pod-autoscaler:4.16.0"
  verbosity : Int32 := 1
  extraArgs : String := ""
  deriving DecidableEq, Inhabited

namespace Config

def environmentKeys : List String :=
  ["RELEASE_VERSION", "WATCH_NAMESPACE", "VERTICAL_POD_AUTOSCALER_NAMESPACE",
    "VERTICAL_POD_AUTOSCALER_NAME", "RELATED_IMAGE_VPA", "VERTICAL_POD_AUTOSCALER_VERBOSITY",
    "VERTICAL_POD_AUTOSCALER_EXTRA_ARGS"]

/-- The default with every variable that is set laid over it. A verbosity that is no number counts
    as the default one. -/
def ofEnvironment (lookup : String → Option String) : Config :=
  let default : Config := {}
  { releaseVersion := (lookup "RELEASE_VERSION").getD default.releaseVersion
    watchNamespace := (lookup "WATCH_NAMESPACE").getD default.watchNamespace
    operandNamespace :=
      (lookup "VERTICAL_POD_AUTOSCALER_NAMESPACE").getD default.operandNamespace
    name := (lookup "VERTICAL_POD_AUTOSCALER_NAME").getD default.name
    image := (lookup "RELATED_IMAGE_VPA").getD default.image
    verbosity :=
      ((lookup "VERTICAL_POD_AUTOSCALER_VERBOSITY").bind fun text =>
        Text.int32? (Text.trim text.toList)).getD default.verbosity
    extraArgs := (lookup "VERTICAL_POD_AUTOSCALER_EXTRA_ARGS").getD default.extraArgs }

end Config

end AutoscalerOperator
