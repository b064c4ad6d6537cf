import AutoscalerOperator.Proofs.Status.Applied
import AutoscalerOperator.Proofs.Status.Release

namespace AutoscalerOperator

open Kubernetes Program

namespace Kubernetes.Deployment

/-- Whether a deployment says that it is at a release, and has rolled it out. -/
def IsAt (d : Deployment) (release : String) : Prop :=
  d.metadata.annotation? releaseAnnotation = Option.some release ∧ d.RolledOut

theorem isAt_iff {d : Deployment} {release : String} :
    (d.metadata.isAtRelease release && d.isRolledOut) = true ↔ d.IsAt release := by
  rw [Bool.and_eq_true, isRolledOut_iff, ObjectMeta.isAtRelease, beq_iff_eq, IsAt]

end Kubernetes.Deployment

/-! What is published does not depend on what was, but for the versions and the times. -/

theorem versions_adopt {versions : List OperandVersion} (nonempty : versions ≠ [])
    (existing : Option (List OperandVersion)) :
    (Merged.adopt existing (some versions)).value = some versions := by
  unfold Merged.adopt
  split
  · rename_i same
    cases existing with
    | none => exact absurd (eq_nil_of_semanticEq_none same) nonempty
    | some stored => exact congrArg some (versions_eq_of_semanticEq same)
  · rfl

section

variable {reported : ClusterOperatorStatus}

theorem versions_nextStatus (told : reported.versions ≠ some []) (config : Config) (now : Instant)
    (published? : Option ClusterOperatorStatus) :
    (nextStatus config reported now published?).value.recognized.versions =
      reported.versions.or (published?.bind (·.versions)) := by
  have previous : (published?.getD {}).versions = published?.bind (·.versions) := by
    cases published? <;> rfl
  rw [← previous]
  change (Merged.adopt _ (reported.versions.or _)).value = _
  cases given : reported.versions with
  | none => rw [Option.none_or, Merged.adopt_self]
  | some versions =>
    have nonempty : versions ≠ [] := fun empty => told (given.trans (congrArg some empty))
    rw [Option.some_or, versions_adopt nonempty]

theorem undated_nextStatus (reportable : Reportable reported.conditions) (config : Config)
    (now : Instant) (published? : Option ClusterOperatorStatus) :
    (nextStatus config reported now published?).value.recognized.conditions.map Condition.undated =
      reported.conditions.map Condition.undated := by
  obtain ⟨time, dated⟩ :=
    conditions_completedStatus reportable config (published?.getD {}) now
  change ((Merged.adopt (published?.getD {}).conditions
    (completedStatus config (published?.getD {}) reported now).conditions).value.map _).map _ = _
  rw [map_recognized_adopt fun _ _ => Condition.undated_of_normal, dated,
    List.map_congr_left (reportable.known_dated time), List.map_id', List.map_map]
  rfl

end

/-! A report is a check of the recommender by at most two reads, and what is published upon it. -/

section

variable {s : Simulation} {config : Config}

def Simulation.instanceRead (s : Simulation) (config : Config) :
    Except Error AutoscalerController × Simulation :=
  handle (.get .controller (some config.watchNamespace) config.name) s

def Simulation.recommenderRead (s : Simulation) (config : Config) :
    Except Error Deployment × Simulation :=
  handle (.get .deployment (some config.operandNamespace)
    (Operand.recommender.resourceName config.name)) (s.instanceRead config).2

structure Simulation.Reread (s t : Simulation) : Prop where
  cluster : t.cluster = s.cluster
  clock : t.clock = s.clock
  undisturbed : t.Undisturbed .clusterOperator

theorem checkRecommender_run (undisturbed : s.Undisturbed .clusterOperator) (stays : s.StaysRunning)
    (config : Config) :
    s.Reread ((checkRecommender config).run Simulation.handle s).2 ∧
      ((checkRecommender config).run Simulation.handle s).1 =
        match (s.instanceRead config).1 with
        | .error e => if e.isNotFound then .ok true else .error e
        | .ok _ =>
          match (s.recommenderRead config).1 with
          | .error e => if e.isNotFound then .ok false else .error e
          | .ok deployment => .ok (deployment.metadata.isAtRelease config.releaseVersion &&
              deployment.isRolledOut) := by
  obtain ⟨cluster, clock, -, -, still⟩ :=
    Simulation.read_keeps stays .controller (some config.watchNamespace) config.name
  have first := undisturbed.read stays .controller (some config.watchNamespace) config.name
  obtain ⟨cluster', clock', -, -, -⟩ := Simulation.read_keeps still .deployment
    (some config.operandNamespace) (Operand.recommender.resourceName config.name)
  have second := first.read still .deployment (some config.operandNamespace)
    (Operand.recommender.resourceName config.name)
  have once : s.Reread (s.instanceRead config).2 := ⟨cluster, clock, first⟩
  have twice : s.Reread (s.recommenderRead config).2 :=
    ⟨cluster'.trans cluster, clock'.trans clock, second⟩
  unfold Simulation.recommenderRead at twice ⊢
  unfold Simulation.instanceRead at once twice ⊢
  cases read : Simulation.handle (.get .controller (some config.watchNamespace) config.name) s with
  | mk answer between =>
    rw [read] at once twice
    rw [checkRecommender, run_ask read]
    cases answer with
    | error e =>
      dsimp only
      split <;> exact ⟨once, rfl⟩
    | ok owner =>
      dsimp only
      cases reread : Simulation.handle (.get .deployment (some config.operandNamespace)
          (Operand.recommender.resourceName config.name)) between with
      | mk answer after =>
        rw [reread] at twice
        rw [run_ask reread]
        cases answer with
        | error e =>
          dsimp only
          split <;> exact ⟨twice, rfl⟩
        | ok deployment => exact ⟨twice, rfl⟩

theorem reportStatus_run (undisturbed : s.Undisturbed .clusterOperator) (stays : s.StaysRunning)
    (named : s.cluster.Named) (config : Config) :
    let checked := ((checkRecommender config).run Simulation.handle s).1
    ((reportStatus config).run Simulation.handle s).1 = .ok (checked.toOption.getD false) ∧
      ((reportStatus config).run Simulation.handle s).2.cluster =
        s.cluster.applied config (statusOf config checked) s.clock := by
  obtain ⟨⟨cluster, clock, still⟩, -⟩ := checkRecommender_run undisturbed stays config
  rw [reportStatus_eq, run_bind]
  generalize (checkRecommender config).run Simulation.handle s = check at cluster clock still ⊢
  obtain ⟨checked, t⟩ := check
  have applied := applyStatus_run still (cluster ▸ named) config (statusOf config checked)
  rw [publishReport, run_bind, applied]
  refine ⟨rfl, ?_⟩
  change t.cluster.applied config (statusOf config checked) t.clock = _
  rw [cluster, clock]

structure Reporting (outcome : Except Error Bool × Simulation) (available : Bool)
    (conditions : List Condition) (versions : Option (List OperandVersion)) : Prop where
  answer : outcome.1 = .ok available
  published : ∃ status, outcome.2.cluster.published? = some status ∧
    status.conditions.map Condition.undated = conditions ∧ status.versions = versions

theorem reporting_statusOf (undisturbed : s.Undisturbed .clusterOperator) (stays : s.StaysRunning)
    (named : s.cluster.Named) (config : Config) :
    let checked := ((checkRecommender config).run Simulation.handle s).1
    Reporting ((reportStatus config).run Simulation.handle s) (checked.toOption.getD false)
      (statusOf config checked).conditions
      ((statusOf config checked).versions.or (s.cluster.published?.bind (·.versions))) := by
  intro checked
  obtain ⟨answer, cluster⟩ := reportStatus_run undisturbed stays named config
  obtain ⟨undated, nonempty, told⟩ : (statusOf config checked).conditions.map Condition.undated =
      (statusOf config checked).conditions ∧ (statusOf config checked).conditions ≠ [] ∧
        (statusOf config checked).versions ≠ some [] := by
    rcases checked with e | _ | _ <;> exact ⟨rfl, nofun, nofun⟩
  have conditions := undated_nextStatus (reportable_statusOf config checked) config s.clock
    s.cluster.published?
  have versions := versions_nextStatus told config s.clock s.cluster.published?
  rw [← Cluster.published?_applied, ← cluster] at conditions versions
  refine ⟨answer, ?_⟩
  cases stands : ((reportStatus config).run Simulation.handle s).2.cluster.published? with
  | none =>
    rw [stands, undated] at conditions
    exact absurd conditions.symm nonempty
  | some status =>
    rw [stands] at conditions versions
    exact ⟨status, rfl, conditions.trans undated, versions⟩

theorem Reporting.unique {outcome : Except Error Bool × Simulation} {available other : Bool}
    {conditions others : List Condition} {versions versions' : Option (List OperandVersion)}
    (first : Reporting outcome available conditions versions)
    (second : Reporting outcome other others versions') :
    available = other ∧ conditions = others ∧ versions = versions' := by
  obtain ⟨answer, status, stands, rfl, rfl⟩ := first
  obtain ⟨answer', status', stands', rfl, rfl⟩ := second
  rw [answer] at answer'
  rw [stands] at stands'
  cases answer'
  cases stands'
  exact ⟨rfl, rfl, rfl⟩

theorem Reporting.iff_checked {outcome : Except Error Bool × Simulation}
    {checked : Except Error Bool} {previous : Option (List OperandVersion)}
    (reports : Reporting outcome (checked.toOption.getD false) (statusOf config checked).conditions
      ((statusOf config checked).versions.or previous)) :
    (Reporting outcome true (availableStatus config).conditions (availableStatus config).versions ↔
      checked = .ok true) ∧
    (Reporting outcome false (progressingStatus config).conditions previous ↔
      checked = .ok false) ∧
    ∀ message, Reporting outcome false [
        { type := .available, status := .true },
        { type := .progressing, status := .false },
        { type := .degraded, status := .true, reason := "UnableToCheckAutoscalers", message }]
          previous ↔
      ∃ e, checked = .error e ∧
        message = "error checking VPA controllers status: " ++ e.message := by
  refine ⟨⟨fun other => ?_, ?_⟩, ⟨fun other => ?_, ?_⟩, fun message => ⟨fun other => ?_, ?_⟩⟩
  · obtain ⟨answer, -, -⟩ := reports.unique other
    rcases checked with e | _ | _
    · cases answer
    · cases answer
    · rfl
  · rintro rfl
    exact reports
  · obtain ⟨answer, conditions, -⟩ := reports.unique other
    rcases checked with e | _ | _
    · cases conditions
    · rfl
    · cases answer
  · rintro rfl
    exact reports
  · obtain ⟨answer, conditions, -⟩ := reports.unique other
    rcases checked with e | _ | _
    · cases conditions
      exact ⟨e, rfl, rfl⟩
    · cases conditions
    · cases answer
  · rintro ⟨e, rfl, rfl⟩
    exact reports

theorem checkRecommender_iff (undisturbed : s.Undisturbed .clusterOperator) (stays : s.StaysRunning)
    (config : Config) :
    let checked := ((checkRecommender config).run Simulation.handle s).1
    (checked = .ok true ↔
      (∃ e, (s.instanceRead config).1 = .error e ∧ e.isNotFound = true) ∨
      ∃ owner d, (s.instanceRead config).1 = .ok owner ∧ (s.recommenderRead config).1 = .ok d ∧
        d.IsAt config.releaseVersion) ∧
    (checked = .ok false ↔
      ∃ owner, (s.instanceRead config).1 = .ok owner ∧
        ((∃ e, (s.recommenderRead config).1 = .error e ∧ e.isNotFound = true) ∨
          ∃ d, (s.recommenderRead config).1 = .ok d ∧ ¬d.IsAt config.releaseVersion)) ∧
    ∀ e, checked = .error e ↔ e.isNotFound = false ∧
      ((s.instanceRead config).1 = .error e ∨
        ∃ owner, (s.instanceRead config).1 = .ok owner ∧
          (s.recommenderRead config).1 = .error e) := by
  intro checked
  have looked : checked = _ := (checkRecommender_run undisturbed stays config).2
  rw [looked]
  have other {e refusal : Error} (absent : refusal.isNotFound = true)
      (present : e.isNotFound = false) : refusal ≠ e := by
    rintro rfl
    cases absent.symm.trans present
  cases (s.instanceRead config).1 with
  | error e =>
    cases absent : e.isNotFound with
    | true => simpa [absent] using fun _ => other absent
    | false => simp +contextual [absent]
  | ok owner =>
    cases (s.recommenderRead config).1 with
    | error e =>
      cases absent : e.isNotFound with
      | true => simpa [absent] using fun _ => other absent
      | false => simp +contextual [absent]
    | ok d => simp [← Deployment.isAt_iff]

/-- What a report comes to tells how the instance and the recommender were read, and the other way
    round. -/
theorem reportStatus_classifies {s : Simulation} (config : Config)
    (undisturbed : s.Undisturbed .clusterOperator) (stays : s.StaysRunning)
    (named : s.cluster.Named) :
    let run := (reportStatus config).run Simulation.handle s
    let previous := s.cluster.published?.bind (·.versions)
    (Reporting run true [
        { type := .available, status := .true, message := "at version " ++ config.releaseVersion },
        { type := .progressing, status := .false },
        { type := .degraded, status := .false }] (some [⟨"operator", config.releaseVersion⟩]) ↔
      (∃ e, (s.instanceRead config).1 = .error e ∧ e.isNotFound = true) ∨
      ∃ owner d, (s.instanceRead config).1 = .ok owner ∧ (s.recommenderRead config).1 = .ok d ∧
        d.IsAt config.releaseVersion) ∧
    (Reporting run false [
        { type := .available, status := .true },
        { type := .progressing, status := .true, reason := "SyncingResources"
          message := "updating to " ++ config.releaseVersion },
        { type := .degraded, status := .false }] previous ↔
      ∃ owner, (s.instanceRead config).1 = .ok owner ∧
        ((∃ e, (s.recommenderRead config).1 = .error e ∧ e.isNotFound = true) ∨
          ∃ d, (s.recommenderRead config).1 = .ok d ∧ ¬d.IsAt config.releaseVersion)) ∧
    ∀ message, Reporting run false [
        { type := .available, status := .true },
        { type := .progressing, status := .false },
        { type := .degraded, status := .true, reason := "UnableToCheckAutoscalers", message }]
          previous ↔
      ∃ e, e.isNotFound = false ∧
        message = "error checking VPA controllers status: " ++ e.message ∧
        ((s.instanceRead config).1 = .error e ∨
          ∃ owner, (s.instanceRead config).1 = .ok owner ∧
            (s.recommenderRead config).1 = .error e) := by
  intro run previous
  obtain ⟨available, progressing, degraded⟩ :=
    (reporting_statusOf undisturbed stays named config).iff_checked
  obtain ⟨reached, lagging, unknown⟩ := checkRecommender_iff undisturbed stays config
  refine ⟨available.trans reached, progressing.trans lagging, fun message => ?_⟩
  refine (degraded message).trans (exists_congr fun e => ?_)
  rw [unknown e]
  constructor
  · rintro ⟨⟨clear, reads⟩, told⟩
    exact ⟨clear, told, reads⟩
  · rintro ⟨clear, told, reads⟩
    exact ⟨⟨clear, reads⟩, told⟩

end

theorem foreign_reports_degraded :
    Reporting ((reportStatus {}).run Simulation.handle .foreign) false [
      { type := .available, status := .true },
      { type := .progressing, status := .false },
      { type := .degraded, status := .true, reason := "UnableToCheckAutoscalers"
        message := "error checking VPA controllers status: " ++
          (Cluster.injectedFailure .get .controller).message }] none := by
  have stays : Simulation.foreign.StaysRunning := nofun
  have classified := reportStatus_classifies {} Simulation.undisturbed_foreign stays
    Simulation.named_foreign
  exact (classified.2.2 _).mpr ⟨_, rfl, rfl, .inl rfl⟩

end AutoscalerOperator
