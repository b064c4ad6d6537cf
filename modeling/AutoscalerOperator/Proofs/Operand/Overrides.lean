import AutoscalerOperator.Proofs.Managed.Edits

namespace AutoscalerOperator

open Kubernetes

/-- Whether an argument sets a flag: bare, or with a value after `=`. -/
inductive Sets (name : String) : String → Prop
  | bare : Sets name name
  | valued (value : String) : Sets name (Operand.flag name value)

def IsSet (name : String) (args : List String) : Prop := ∃ arg ∈ args, Sets name arg

theorem sets_iff {name arg : String} :
    Sets name arg ↔ arg = name ∨ (name ++ "=").toList <+: arg.toList := by
  constructor
  · intro sets
    cases sets with
    | bare => exact .inl rfl
    | valued value => exact .inr ⟨value.toList, String.toList_append.symm⟩
  · rintro (rfl | ⟨value, text⟩)
    · exact .bare
    · have whole : arg = Operand.flag name (String.ofList value) := by
        apply String.toList_injective
        rw [Operand.flag, String.toList_append, String.toList_ofList, text]
      exact whole ▸ .valued _

theorem argExists_iff {args : List String} {name : String} :
    argExists args name = true ↔ IsSet name args := by
  simp only [argExists, IsSet, sets_iff, List.any_eq_true, Bool.or_eq_true, beq_iff_eq,
    List.isPrefixOf_iff_prefix]

instance (name : String) (args : List String) : Decidable (IsSet name args) :=
  decidable_of_iff _ argExists_iff

theorem flagUnless_eq (given : List String) (name value : String) :
    Operand.flagUnless given name value =
      if IsSet name given then [] else [Operand.flag name value] := by
  simp only [Operand.flagUnless, argExists_iff]

theorem Sets.name_prefix {name arg : String} (sets : Sets name arg) :
    name.toList <+: arg.toList := by
  cases sets with
  | bare => exact List.prefix_rfl
  | valued value =>
    rw [Operand.flag, String.toList_append, String.toList_append, List.append_assoc]
    exact List.prefix_append ..

theorem isSet_append {name : String} {first second : List String} :
    IsSet name (first ++ second) ↔ IsSet name first ∨ IsSet name second := by
  simp only [IsSet, List.mem_append, or_and_right, exists_or]

def Config.extra (config : Config) : List String :=
  if config.extraArgs = "" then [] else [config.extraArgs]

namespace Operand

/-- The flags that the operator sets unless an instance does, with their values. -/
def defaults : Operand → List (String × String)
  | .recommender | .updater => []
  | .admission => [("--kube-api-qps", "25.0"), ("--kube-api-burst", "50.0")]

def leftDefaults (operand : Operand) (given : List String) : List String :=
  (operand.defaults.filter fun entry => ¬IsSet entry.1 given).map fun entry =>
    flag entry.1 entry.2

/-- How given arguments are added to the plain ones of an operand: they come last, and those
    defaults go whose flags they set. The operator itself then sets such a flag just if it is not
    given. -/
def ArgsOverridden (operand : Operand) (config : Config) (given plain args : List String) : Prop :=
  ∃ before after : List String,
    plain = before ++ operand.leftDefaults [] ++ after ++ config.extra ∧
    args = before ++ operand.leftDefaults given ++ after ++ config.extra ++ given ∧
    ∀ entry ∈ operand.defaults,
      (IsSet entry.1 (before ++ operand.leftDefaults given ++ after) ↔ ¬IsSet entry.1 given)

def verbosityArgs (config : Config) : List String :=
  ["--logtostderr", flag "--v" (toString config.verbosity.toInt)]

def certificateArgs : List String :=
  [flag "--tls-cert-file" (certificatesPath ++ "/tls.crt"),
    flag "--tls-private-key" (certificatesPath ++ "/tls.key"),
    flag "--client-ca-file" (authoritiesPath ++ "/service-ca.crt"),
    flag "--webhook-timeout-seconds" "10"]

def baseResources : ResourceRequirements :=
  { requests := some (.ofList [("cpu", ⟨"25m"⟩), ("memory", ⟨"25Mi"⟩)]) }

def plainSpec (operand : Operand) (spec : ControllerSpec) : ControllerSpec :=
  (Edit.overrides operand {}).applied spec

end Operand

/-- Whether any requirement is given: a limit, a request or a claim. -/
def Kubernetes.ResourceRequirements.Requires (r : ResourceRequirements) : Prop :=
  (∃ limits, r.limits = some limits ∧ limits ≠ .empty) ∨
    (∃ requests, r.requests = some requests ∧ requests ≠ .empty) ∨
      ∃ claims, r.claims = some claims ∧ claims ≠ []

/-- What an override changes in the container of an operand: each field goes its own way. -/
structure ContainerOverridden (operand : Operand) (config : Config) (o : ContainerOverride)
    (plain container : Container) : Prop where
  resources : container.resources = o.resources ↔ ∃ r, o.resources = some r ∧ r.Requires
  plainResources : (¬∃ r, o.resources = some r ∧ r.Requires) →
    container.resources = plain.resources
  args : ∃ plainArgs args, plain.args = some plainArgs ∧ container.args = some args ∧
    operand.ArgsOverridden config o.args plainArgs args
  others : container = { plain with resources := container.resources, args := container.args }

/-- What an override changes in the pods of an operand. -/
structure PodsOverridden (operand : Operand) (config : Config) (o : DeploymentOverride)
    (plain pods : PodSpec) : Prop where
  container : ∃ plainContainer container, plain.containers = [plainContainer] ∧
    pods.containers = [container] ∧
    ContainerOverridden operand config o.container plainContainer container
  nodeSelector : pods.nodeSelector = some o.nodeSelector ↔ o.nodeSelector ≠ .empty
  plainNodeSelector : o.nodeSelector = .empty → pods.nodeSelector = plain.nodeSelector
  tolerations : pods.tolerations = some o.tolerations ↔ o.tolerations ≠ []
  plainTolerations : o.tolerations = [] → pods.tolerations = plain.tolerations
  others : pods = { plain with
    containers := pods.containers
    nodeSelector := pods.nodeSelector
    tolerations := pods.tolerations }

theorem SortedMap.isEmpty_iff {α : Type} {map : SortedMap α} :
    map.isEmpty = true ↔ map = .empty := by
  constructor
  · intro empty
    obtain ⟨entries, ascending⟩ := map
    cases entries with
    | nil => rfl
    | cons entry rest => cases empty
  · rintro rfl
    rfl

theorem isStated_iff {r : ResourceRequirements} : r.isStated = true ↔ r.Requires := by
  obtain ⟨limits, requests, claims⟩ := r
  cases limits <;> cases requests <;> cases claims <;>
    simp [ResourceRequirements.isStated, ResourceRequirements.Requires, ← SortedMap.isEmpty_iff,
      or_assoc]

namespace Operand

variable {given : List String} (operand : Operand) (spec : ControllerSpec) (config : Config)

theorem overrideIn_plainSpec : operand.overrideIn (operand.plainSpec spec) = {} := by
  cases operand <;> rfl

theorem args_eq :
    operand.args spec config = verbosityArgs config ++ operand.ownArgs spec ++ config.extra := rfl

section

variable {operand} {entry other : String × String}

theorem sets_default_iff (default : entry ∈ operand.defaults) (also : other ∈ operand.defaults) :
    Sets entry.1 (flag other.1 other.2) ↔ other = entry := by
  cases operand with
  | recommender | updater => cases default
  | admission =>
    simp only [defaults, List.mem_cons, List.not_mem_nil, or_false] at default also
    rcases default with rfl | rfl <;> rcases also with rfl | rfl <;> simp only [sets_iff] <;> decide

theorem isSet_leftDefaults (default : entry ∈ operand.defaults) :
    IsSet entry.1 (operand.leftDefaults given) ↔ ¬IsSet entry.1 given := by
  constructor
  · rintro ⟨arg, left, sets⟩
    obtain ⟨other, member, rfl⟩ := List.mem_map.mp left
    obtain ⟨also, unset⟩ := List.mem_filter.mp member
    obtain rfl := (sets_default_iff default also).mp sets
    exact of_decide_eq_true unset
  · intro unset
    refine ⟨flag entry.1 entry.2, List.mem_map_of_mem ?_, .valued _⟩
    exact List.mem_filter.mpr ⟨default, decide_eq_true unset⟩

theorem unset_verbosityArgs (default : entry ∈ operand.defaults) :
    ¬IsSet entry.1 (verbosityArgs config) := by
  have apart : ¬entry.1.toList <+: "--logtostderr".toList ∧
      ∀ value : String, ¬entry.1.toList <+: (flag "--v" value).toList := by
    cases operand with
    | recommender | updater => cases default
    | admission =>
      simp only [defaults, List.mem_cons, List.not_mem_nil, or_false] at default
      simp only [Operand.flag, String.toList_append]
      rcases default with rfl | rfl <;> simp
  rintro ⟨arg, member, sets⟩
  rcases List.mem_cons.mp member with rfl | member
  · exact apart.1 sets.name_prefix
  · obtain rfl := List.mem_singleton.mp member
    exact apart.2 _ sets.name_prefix

theorem unset_certificateArgs (default : entry ∈ operand.defaults) :
    ¬IsSet entry.1 certificateArgs := by
  cases operand with
  | recommender | updater => cases default
  | admission =>
    simp only [defaults, List.mem_cons, List.not_mem_nil, or_false] at default
    rcases default with rfl | rfl <;> decide

end

theorem ownArgs_admission : admission.ownArgs spec =
    admission.leftDefaults (admission.overrideIn spec).container.args ++ certificateArgs := by
  have left (given : List String) : admission.leftDefaults given =
      flagUnless given "--kube-api-qps" "25.0" ++ flagUnless given "--kube-api-burst" "50.0" := by
    simp only [leftDefaults, defaults, flagUnless_eq]
    by_cases qps : IsSet "--kube-api-qps" given <;>
      by_cases burst : IsSet "--kube-api-burst" given <;> simp [qps, burst]
  rw [left]
  rfl

theorem ownArgs_around :
    ∃ before after : List String,
      operand.ownArgs (operand.plainSpec spec) = before ++ operand.leftDefaults [] ++ after ∧
      operand.ownArgs spec =
        before ++ operand.leftDefaults (operand.overrideIn spec).container.args ++ after ∧
      ∀ entry ∈ operand.defaults, ¬IsSet entry.1 before ∧ ¬IsSet entry.1 after := by
  have alone (args : List String) : args = args ++ [] ++ [] := by simp
  cases operand with
  | recommender | updater => exact ⟨_, [], alone _, alone _, nofun⟩
  | admission =>
    refine ⟨[], certificateArgs, ownArgs_admission _, ownArgs_admission spec, ?_⟩
    intro entry default
    exact ⟨by simp [IsSet], unset_certificateArgs default⟩

theorem argsOverridden_args :
    operand.ArgsOverridden config (operand.overrideIn spec).container.args
      (operand.args (operand.plainSpec spec) config)
      (operand.args spec config ++ (operand.overrideIn spec).container.args) := by
  obtain ⟨before, after, plain, own, unset⟩ := ownArgs_around operand spec
  refine ⟨verbosityArgs config ++ before, after, ?_, ?_, fun entry default => ?_⟩
  · rw [args_eq, plain]
    simp only [List.append_assoc]
  · rw [args_eq, own]
    simp only [List.append_assoc]
  · simp only [isSet_append, isSet_leftDefaults default, unset entry default,
      unset_verbosityArgs config default, false_or, or_false]

theorem args_container : (operand.container spec config).args =
    some (operand.args spec config ++ (operand.overrideIn spec).container.args) := by
  have overridden (container : Container) (o : ContainerOverride) (args : List String)
      (held : container.args = some args) :
      (overriddenContainer container o).args = some (args ++ o.args) := by
    cases given : o.args <;> simp [overriddenContainer, given, held]
  cases operand <;> exact overridden _ _ _ rfl

theorem resources_container : (operand.container spec config).resources =
    some ((operand.overrideIn spec).container.statedResources.getD baseResources) := by
  have overridden (o : ContainerOverride) :
      o.statedResources.or (some baseResources) = some (o.statedResources.getD baseResources) := by
    cases o.statedResources <;> rfl
  cases operand <;> exact overridden _

theorem statedResources_eq {o : ContainerOverride} {r : ResourceRequirements} :
    o.statedResources = some r ↔ o.resources = some r ∧ r.Requires := by
  simp [ContainerOverride.statedResources, Option.filter_eq_some_iff, isStated_iff]

theorem containerOverridden_container :
    ContainerOverridden operand config (operand.overrideIn spec).container
      (operand.container (operand.plainSpec spec) config) (operand.container spec config) where
  resources := by
    rw [resources_container]
    cases stated : (operand.overrideIn spec).container.statedResources with
    | some r =>
      obtain ⟨given, requires⟩ := statedResources_eq.mp stated
      exact iff_of_true given.symm ⟨r, given, requires⟩
    | none =>
      have unstated :
          ¬∃ r, (operand.overrideIn spec).container.resources = some r ∧ r.Requires := by
        rintro ⟨r, required⟩
        cases stated.symm.trans (statedResources_eq.mpr required)
      refine iff_of_false (fun given => ?_) unstated
      exact unstated ⟨baseResources, given.symm, isStated_iff.mp rfl⟩
  plainResources unstated := by
    rw [resources_container, resources_container, overrideIn_plainSpec]
    cases stated : (operand.overrideIn spec).container.statedResources with
    | some r => exact absurd ⟨r, statedResources_eq.mp stated⟩ unstated
    | none => rfl
  args := by
    have plain := args_container operand (operand.plainSpec spec) config
    rw [overrideIn_plainSpec] at plain
    exact ⟨_, _, plain.trans (congrArg some (List.append_nil _)), args_container ..,
      argsOverridden_args operand spec config⟩
  others := by cases operand <;> rfl

theorem nodeSelector_podSpec : (operand.podSpec spec config).nodeSelector =
    some (if (operand.overrideIn spec).nodeSelector = .empty then baseNodeSelector
      else (operand.overrideIn spec).nodeSelector) := by
  simp only [podSpec, SortedMap.isEmpty_iff]

theorem tolerations_podSpec : (operand.podSpec spec config).tolerations =
    some (if (operand.overrideIn spec).tolerations = [] then baseTolerations
      else (operand.overrideIn spec).tolerations) := by
  simp only [podSpec, List.isEmpty_iff]

/-- Each field of an override goes its own way in the pods of an operand. -/
theorem podSpec_overridden :
    PodsOverridden operand config (operand.overrideIn spec)
      (operand.podSpec (operand.plainSpec spec) config) (operand.podSpec spec config) where
  container := ⟨_, _, rfl, rfl, containerOverridden_container operand spec config⟩
  nodeSelector := by
    rw [nodeSelector_podSpec]
    constructor
    · intro same empty
      rw [empty, if_pos rfl] at same
      exact absurd same (by decide)
    · intro filled
      rw [if_neg filled]
  plainNodeSelector empty := by
    rw [nodeSelector_podSpec, nodeSelector_podSpec, overrideIn_plainSpec, empty]
  tolerations := by
    rw [tolerations_podSpec]
    constructor
    · intro same empty
      rw [empty, if_pos rfl] at same
      exact absurd same (by decide)
    · intro filled
      rw [if_neg filled]
  plainTolerations empty := by
    rw [tolerations_podSpec, tolerations_podSpec, overrideIn_plainSpec, empty]
  others := rfl

end Operand

end AutoscalerOperator
