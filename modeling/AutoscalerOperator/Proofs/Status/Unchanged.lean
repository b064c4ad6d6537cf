import AutoscalerOperator.Proofs.Execution.Footprint
import AutoscalerOperator.Proofs.Execution.Simulated
import AutoscalerOperator.Proofs.Status.OwnMetadata
import AutoscalerOperator.Proofs.Status.Repeated
import AutoscalerOperator.Proofs.Status.Runs

namespace AutoscalerOperator

open Kubernetes Program

theorem ClusterOperator.reporting_unchanged {operator : ClusterOperator} {config : Config}
    {reported : ClusterOperatorStatus} {now : Instant}
    (distinct : DistinctOwners (operator.metadata.ownerReferences.getD []))
    (same : (mergeStatus (operator.status.getD {})
      (completedStatus config (operator.status.getD {}) reported now)).changed = false) :
    (operator.reporting config reported now).changed = false := by
  have parts : (operator.reporting config reported now).changed =
      ((mergeMetadata operator.metadata operator.metadata).changed ||
        (mergeStatus (operator.status.getD {})
          (completedStatus config (operator.status.getD {}) reported now)).changed) := rfl
  rw [parts, mergeMetadata_unchanged distinct, same]
  rfl

namespace Cluster

/-- Whether a report would publish nothing, at whatever time it is made. -/
def UpToDate (cluster : Cluster) (config : Config) (reported : ClusterOperatorStatus) : Prop :=
  ∃ operator, cluster.get .clusterOperator operatorKey = .ok operator ∧
    ∀ now, (operator.reporting config reported now).changed = false

def HasDistinctOwners (cluster : Cluster) : Prop :=
  ∀ operator : ClusterOperator, cluster.find? .clusterOperator operatorKey = some operator →
    DistinctOwners (operator.metadata.ownerReferences.getD [])

def checked (cluster : Cluster) (config : Config) : Except Error Bool :=
  match cluster.get .controller ⟨some config.watchNamespace, config.name⟩ with
  | .error e => if e.isNotFound then .ok true else .error e
  | .ok _ =>
    match cluster.get .deployment
      ⟨some config.operandNamespace, Operand.recommender.resourceName config.name⟩ with
    | .error e => if e.isNotFound then .ok false else .error e
    | .ok (deployment : Deployment) =>
      .ok (deployment.metadata.isAtRelease config.releaseVersion && deployment.isRolledOut)

variable {cluster other start final : Cluster} {kind : Kind} {key : ObjectKey}

theorem get_congr (failing : cluster.failing = other.failing)
    (found : cluster.find? kind key = other.find? kind key) :
    cluster.get kind key = other.get kind key := by
  rw [get_eq, get_eq, failing, found]

theorem checked_congr (config : Config) (failing : cluster.failing = other.failing)
    (elsewhere : ∀ kind key, kind ≠ .clusterOperator →
      cluster.find? kind key = other.find? kind key) :
    cluster.checked config = other.checked config := by
  unfold checked
  rw [get_congr failing (elsewhere .controller _ (by decide))]
  split
  · rfl
  · rw [get_congr failing (elsewhere .deployment _ (by decide))]

end Cluster

open Cluster

section

variable {circumstances : Circumstances} {config : Config} {reported : ClusterOperatorStatus}
  {start final : Cluster} {trace : List (Exchange Cluster)}

theorem checkRecommender_checked {checked : Except Error Bool}
    (calm : ∀ e, ¬circumstances.failures e)
    (run : (checkRecommender config).Runs (closedWorld circumstances) start trace checked final) :
    checked = start.checked config ∧ final = start := by
  obtain ⟨answer, after, rest, read, upon, rfl⟩ := closed_ask_iff.mp run
  obtain ⟨rfl, found⟩ := answers_get_of_calm calm read
  cases answer with
  | error e =>
    change Runs _ (if e.isNotFound then _ else _) _ _ _ _ at upon
    simp only [Cluster.checked, ← found]
    split at upon <;>
    · rename_i absent
      obtain ⟨rfl, rfl, rfl⟩ := closed_done_iff.mp upon
      exact ⟨by simp [absent], rfl⟩
  | ok owner =>
    obtain ⟨answer, later, rest, reread, last, rfl⟩ := closed_ask_iff.mp upon
    obtain ⟨rfl, deployed⟩ := answers_get_of_calm calm reread
    simp only [Cluster.checked, ← found, ← deployed]
    cases answer with
    | error e =>
      change Runs _ (if e.isNotFound then _ else _) _ _ _ _ at last
      split at last <;>
      · rename_i absent
        obtain ⟨rfl, rfl, rfl⟩ := closed_done_iff.mp last
        exact ⟨by simp [absent], rfl⟩
    | ok deployment =>
      obtain ⟨rfl, rfl, rfl⟩ := closed_done_iff.mp last
      exact ⟨rfl, rfl⟩

theorem openingRun_stored {existing : ClusterOperator} (calm : ∀ e, ¬circumstances.failures e)
    (keyed : start.Keyed) (distinct : start.HasDistinctOwners)
    (run : OpeningRun (closedWorld circumstances) start trace (.ok existing) final) :
    final.get .clusterOperator operatorKey = .ok existing ∧
      keyOf .clusterOperator existing = .ok operatorKey ∧
      DistinctOwners (existing.metadata.ownerReferences.getD []) := by
  cases run with
  | found moved read left =>
    obtain rfl := closedWorld_moves moved
    obtain rfl := closedWorld_moves left
    obtain ⟨rfl, got⟩ := answers_get_of_calm calm read
    obtain ⟨-, found⟩ : _ ∧ final.find? .clusterOperator operatorKey = some existing :=
      (get_eq_ok_iff _).mp got.symm
    exact ⟨got.symm, keyOf_of_names (keyed _ _ _ found) (by decide), distinct existing found⟩
  | created moved read absent further answered left =>
    obtain rfl := closedWorld_moves moved
    obtain ⟨rfl, refused⟩ := answers_get_of_calm calm read
    obtain rfl := closedWorld_moves further
    obtain rfl := closedWorld_moves left
    have readable := (get_notFound refused.symm absent).1
    obtain ⟨key, fresh, -, rfl, rfl⟩ := create_eq_ok answered
    have own : keyOf .clusterOperator ClusterOperator.fresh = .ok operatorKey := rfl
    rw [own] at fresh
    cases fresh
    exact ⟨(get_eq_ok_iff _).mpr ⟨readable, find?_created ..⟩, rfl, List.Pairwise.nil⟩

theorem applyRun_upToDate (calm : ∀ e, ¬circumstances.failures e)
    (running : ¬circumstances.stopped true) (reportable : Reportable reported.conditions)
    (keyed : start.Keyed) (distinct : start.HasDistinctOwners)
    (run : ApplyRun circumstances (fun _ _ => False) config reported start trace (.ok ()) final) :
    final.UpToDate config reported := by
  generalize succeeded : Except.ok () = result at run
  cases run with
  | stopped moved stop left => exact absurd stop running
  | late moved shown further stop left last => exact absurd stop running
  | unopened moved shown left => cases succeeded
  | @kept told opened clocked _ opening existing now moved shown further clock same left =>
    obtain rfl := closedWorld_moves moved
    obtain rfl := closedWorld_moves further
    obtain rfl := closedWorld_moves left
    obtain ⟨stored, -, owners⟩ := openingRun_stored calm keyed distinct shown
    have known := recognized_status ((get_eq_ok_iff _).mp stored).2
    have unchanged : (mergeStatus (existing.status.getD {})
        (completedStatus config (existing.status.getD {}) reported now)).changed = false :=
      (Bool.or_eq_false_iff.mp same).2
    refine ⟨existing, stored, fun later => ClusterOperator.reporting_unchanged owners ?_⟩
    have again := mergeStatus_again reportable config (existing.status.getD {}) now later
    dsimp only at again
    rwa [mergeStatus_of_unchanged unchanged, known] at again
  | @written told opened clocked again before after _ opening existing now answer moved shown
      further clock changed asked ready answered left =>
    obtain rfl := closedWorld_moves moved
    obtain rfl := closedWorld_moves further
    obtain rfl := closedWorld_moves asked
    obtain rfl := closedWorld_moves ready
    obtain rfl := closedWorld_moves left
    obtain ⟨stored, keyed, owners⟩ := openingRun_stored calm keyed distinct shown
    obtain ⟨readable, found⟩ : (.get, .clusterOperator) ∉ before.failing ∧
        before.find? .clusterOperator operatorKey = some existing := (get_eq_ok_iff _).mp stored
    cases answer with
    | error e => cases succeeded
    | ok operator =>
      obtain ⟨key, current, own, stands, -, rfl, rfl⟩ := update_eq_ok answered
      rw [ClusterOperator.keyOf_reporting keyed] at own
      cases own
      rw [found] at stands
      cases stands
      refine ⟨_, (get_eq_ok_iff _).mpr ⟨readable, find?_restated ..⟩, fun later => ?_⟩
      -- Only the status was written, so the owners are those that were read.
      apply ClusterOperator.reporting_unchanged
      · exact owners
      · exact mergeStatus_again reportable config (existing.status.getD {}) now later

theorem openingRun_silent {operator : ClusterOperator} {shown : Except Error ClusterOperator}
    (calm : ∀ e, ¬circumstances.failures e)
    (stored : start.get .clusterOperator operatorKey = .ok operator)
    (run : OpeningRun (closedWorld circumstances) start trace shown final) :
    shown = .ok operator ∧ final = start ∧ ∀ exchange ∈ trace, exchange.call.Silent := by
  cases run with
  | found moved read left =>
    obtain rfl := closedWorld_moves moved
    obtain ⟨rfl, got⟩ := answers_get_of_calm calm read
    obtain rfl := closedWorld_moves left
    exact ⟨got.trans stored, rfl, by simp [Call.Silent]⟩
  | created moved read absent further answered left | unread moved read unclear left =>
    obtain rfl := closedWorld_moves moved
    obtain ⟨rfl, refused⟩ := answers_get_of_calm calm read
    cases refused.trans stored

theorem applyRun_silent {result : Except Error Unit} (calm : ∀ e, ¬circumstances.failures e)
    (upToDate : start.UpToDate config reported)
    (run : ApplyRun circumstances (fun _ _ => False) config reported start trace result final) :
    result = .ok () ∧ final = start ∧ ∀ exchange ∈ trace, exchange.call.Silent := by
  obtain ⟨operator, stored, unchanged⟩ := upToDate
  cases run with
  | stopped moved stop left =>
    obtain rfl := closedWorld_moves moved
    exact ⟨rfl, closedWorld_moves left, by simp [Call.Silent]⟩
  | unopened moved shown left =>
    obtain rfl := closedWorld_moves moved
    cases (openingRun_silent calm stored shown).1
  | kept moved shown further clock same left =>
    obtain rfl := closedWorld_moves moved
    obtain rfl := closedWorld_moves further
    obtain ⟨-, rfl, silent⟩ := openingRun_silent calm stored shown
    refine ⟨rfl, closedWorld_moves left, ?_⟩
    simpa [Call.Silent, or_imp, forall_and] using silent
  | late moved shown further stop left last =>
    obtain rfl := closedWorld_moves moved
    obtain rfl := closedWorld_moves further
    obtain rfl := closedWorld_moves left
    obtain ⟨-, rfl, silent⟩ := openingRun_silent calm stored shown
    refine ⟨rfl, closedWorld_moves last, ?_⟩
    simpa [Call.Silent, or_imp, forall_and] using silent
  | written moved shown further clock changed asked ready answered left =>
    obtain rfl := closedWorld_moves moved
    obtain ⟨same, -, -⟩ := openingRun_silent calm stored shown
    cases same
    rw [unchanged] at changed
    cases changed

theorem reportRun_upToDate {available : Bool} (calm : ∀ e, ¬circumstances.failures e)
    (running : ¬circumstances.stopped true) (keyed : start.Keyed)
    (distinct : start.HasDistinctOwners)
    (run : (reportStatus config).Runs (closedWorld circumstances) start trace (.ok available)
      final) :
    final.UpToDate config (statusOf config (final.checked config)) ∧
      available = (final.checked config).toOption.getD false := by
  have elsewhere (kind : Kind) (key : ObjectKey) (other : kind ≠ .clusterOperator) :
      final.find? kind key = start.find? kind key := by
    refine find?_run (fun exchange member => ?_) run
    exact (run.only (reportStatus_only config) exchange member).writes?_ne other
  rw [checked_congr config (failing_run run) elsewhere]
  rw [reportStatus_eq] at run
  obtain ⟨first, checked, between, rest, looked, published, rfl⟩ := runs_bind_iff.mp run
  obtain ⟨rfl, rfl⟩ := checkRecommender_checked calm looked
  obtain ⟨applied, apply, told⟩ := applyRun_of_publishReport published
  cases applied with
  | error e => cases told
  | ok done =>
    cases told
    exact ⟨applyRun_upToDate calm running (reportable_statusOf config _) keyed distinct apply, rfl⟩

theorem reportRun_silent {result : Except Error Bool} (calm : ∀ e, ¬circumstances.failures e)
    (upToDate : start.UpToDate config (statusOf config (start.checked config)))
    (run : (reportStatus config).Runs (closedWorld circumstances) start trace result final) :
    result = .ok ((start.checked config).toOption.getD false) ∧ final = start ∧
      ∀ exchange ∈ trace, exchange.call.Silent := by
  rw [reportStatus_eq] at run
  obtain ⟨first, checked, between, rest, looked, published, rfl⟩ := runs_bind_iff.mp run
  obtain ⟨rfl, rfl⟩ := checkRecommender_checked calm looked
  obtain ⟨applied, apply, rfl⟩ := applyRun_of_publishReport published
  obtain ⟨rfl, rfl, silent⟩ := applyRun_silent calm upToDate apply
  refine ⟨rfl, rfl, fun exchange member => ?_⟩
  rcases List.mem_append.mp member with member | member
  · exact (checkRecommender_reads looked exchange member).silent
  · exact silent exchange member

end

/-- A report that succeeds leaves the cluster such that the next one, at whatever time, changes
    nothing: it makes no write, publishes no event and comes to the same. -/
theorem reportStatus_again {s t : Simulation} {config : Config} {available : Bool}
    (keyed : s.cluster.Keyed) (distinct : s.cluster.HasDistinctOwners) (free : s.traps = [])
    (running : s.isCancelled = false)
    (published : ((reportStatus config).run Simulation.handle s).1 = .ok available)
    (same : t.cluster = ((reportStatus config).run Simulation.handle s).2.cluster)
    (untrapped : t.traps = []) :
    let next := (reportStatus config).run Simulation.handle t
    next.1 = .ok available ∧ next.2.cluster = t.cluster ∧ next.2.events = t.events ∧
      ∃ calls, next.2.log = t.log ++ calls ∧ ∀ call ∈ calls, call.verb = .get := by
  have first := Simulation.runs_steadily free (reportStatus config)
  have second := Simulation.runs_steadily untrapped (reportStatus config)
  have unstopped : ¬s.steadily.stopped true := by
    intro stopped
    change true = s.isCancelled at stopped
    rw [running] at stopped
    cases stopped
  rw [published, ← same] at first
  obtain ⟨upToDate, rfl⟩ := reportRun_upToDate (fun _ => id) unstopped keyed distinct first
  obtain ⟨result, kept, silent⟩ := reportRun_silent (fun _ => id) upToDate second
  obtain ⟨untold, calls, logged, gets⟩ := t.records_of_silent (reportStatus config) silent
  exact ⟨result, kept, untold, calls, logged, gets⟩

def ClusterOperator.foreign : ClusterOperator where
  metadata := {
    name := operatorName
    ownerReferences := some [{ uid := "uid-a" }, { uid := "uid-b" }] }
  status := some { conditions := [{ type := .upgradeable, status := .false }] }

def Simulation.foreign : Simulation where
  cluster := (({} : Cluster).fail .get .controller).insert .clusterOperator .foreign
  clock := default

theorem Simulation.keyed_foreign : foreign.cluster.Keyed := by
  have failing : (({} : Cluster).fail .get .controller).Keyed := Cluster.keyed_empty
  exact failing.insert .clusterOperator .foreign

theorem Simulation.distinct_foreign : foreign.cluster.HasDistinctOwners := by
  have owners : DistinctOwners [{ uid := "uid-a" }, { uid := "uid-b" }] := by
    simp [DistinctOwners]
  rintro operator ⟨⟩
  exact owners

theorem foreign_reportStatus_again :
    let first := (reportStatus {}).run Simulation.handle .foreign
    let later : Simulation := { first.2 with clock := ⟨1, false⟩ }
    first.1 = .ok false ∧
      let next := (reportStatus {}).run Simulation.handle later
      next.1 = .ok false ∧ next.2.cluster = later.cluster ∧ next.2.events = later.events ∧
        ∃ calls, next.2.log = later.log ++ calls ∧ ∀ call ∈ calls, call.verb = .get := by
  intro first later
  have published : first.1 = .ok false := rfl
  have untrapped : later.traps = [] := rfl
  have same : later.cluster = first.2.cluster := rfl
  have again := reportStatus_again Simulation.keyed_foreign Simulation.distinct_foreign rfl rfl
    published same untrapped
  exact ⟨published, again⟩

end AutoscalerOperator
