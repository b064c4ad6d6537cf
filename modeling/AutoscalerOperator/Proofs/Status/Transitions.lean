import AutoscalerOperator.Proofs.Status.Classified

namespace AutoscalerOperator

open Kubernetes Program
open Relation (ReflTransGen)

namespace Report

def Happens (r : Report) (before after : Cluster) : Prop :=
  ∃ first middle last result,
    (checkRecommender r.config).Runs (Cluster.world (reporting r.time) Cluster.Spares) before first
      r.checked middle ∧
    (publishReport r.config r.checked).Runs (Cluster.world (reporting r.time) Cluster.Spares) middle
      last result after ∧ r.succeeded = result.isOk

theorem exists_happens_iff (config : Config) (time : Instant) (succeeded : Bool)
    (before after : Cluster) :
    (∃ checked, Happens ⟨config, checked, time, succeeded⟩ before after) ↔
      ∃ trace result, (reportStatus config).Runs (Cluster.world (reporting time) Cluster.Spares)
        before trace result after ∧ succeeded = result.isOk := by
  constructor
  · rintro ⟨checked, first, middle, last, result, check, publish, same⟩
    exact ⟨_, result, runs_bind_iff.mpr ⟨first, checked, middle, last, check, publish, rfl⟩, same⟩
  · rintro ⟨trace, result, run, same⟩
    obtain ⟨first, checked, middle, last, check, publish, rfl⟩ := runs_bind_iff.mp run
    exact ⟨checked, first, middle, last, result, check, publish, same⟩

/-- The reports of a reporter on a cluster in which nothing was published before, the latest one
    first. Others may do anything meanwhile but write to the reporter's object. -/
inductive Reported : List Report → Cluster → Prop
  | start {cluster : Cluster} (new : cluster.find? .clusterOperator operatorKey = none) :
    Reported [] cluster
  | report {history : List Report} {r : Report} {before after : Cluster}
    (reported : Reported history before) (happens : r.Happens before after) :
    Reported (r :: history) after

/-- Whether what is published is to be expected after these reports, all successful. -/
def Published (reports : List Report) : Option ClusterOperatorStatus → Prop
  | none => reports = []
  | some status => reports ≠ [] ∧ Tells reports status

variable {r : Report} {reports history : List Report} {before after cluster : Cluster}
  {published? : Option ClusterOperatorStatus}

theorem Published.tells (published : Published reports published?) :
    Tells reports (published?.getD {}) := by
  cases published? with
  | none =>
    obtain rfl : reports = [] := published
    exact ⟨rfl, rfl⟩
  | some status => exact published.2

theorem Happens.effect (happens : r.Happens before after) (named : before.Named) :
    after.Named ∧
      if r.succeeded then
        ∀ reports, Published reports before.published? → Published (r :: reports) after.published?
      else after.published? = before.published? := by
  obtain ⟨first, middle, last, result, check, publish, same⟩ := happens
  have spares : before.Spares middle := Cluster.spares_of_reads check (checkRecommender_reads check)
  obtain ⟨applied, apply, rfl⟩ := applyRun_of_publishReport publish
  obtain ⟨named, effect⟩ := applyRun_effect (named.spares spares) apply
  rw [spares.published?] at effect
  refine ⟨named, ?_⟩
  rcases effect with ⟨⟨e, rfl⟩, unchanged⟩ | ⟨rfl, effect⟩
  · have failed : r.succeeded = false := same
    simpa [failed] using unchanged
  · have succeeded : r.succeeded = true := same
    rw [if_pos succeeded]
    intro reports published
    have tells := published.tells.published r
    rcases effect with written | ⟨unchanged, kept⟩
    · rw [written]
      exact ⟨List.cons_ne_nil _ _, tells⟩
    · rw [unchanged]
      rw [mergeStatus_of_unchanged kept, before.recognized_published] at tells
      cases stands : before.published? with
      | none =>
        -- A report always tells something, so it is never kept back where nothing is published.
        rw [stands] at tells
        cases tells.conditions
      | some status =>
        rw [stands] at tells
        exact ⟨List.cons_ne_nil _ _, tells⟩

theorem Reported.published (reported : Reported history cluster) :
    cluster.Named ∧ Published (history.filter (·.succeeded)) cluster.published? := by
  induction reported with
  | @start cluster new =>
    have unpublished : cluster.published? = none := by
      rw [Cluster.published?, new]
      rfl
    refine ⟨fun operator found => ?_, ?_⟩
    · rw [new] at found
      cases found
    · rw [unpublished]
      rfl
  | @report history r before after _ happens ih =>
    obtain ⟨named, published⟩ := ih
    obtain ⟨named, effect⟩ := happens.effect named
    refine ⟨named, ?_⟩
    cases succeeded : r.succeeded with
    | true =>
      rw [if_pos succeeded] at effect
      rw [List.filter_cons_of_pos succeeded]
      exact effect _ published
    | false =>
      rw [if_neg (by simp [succeeded])] at effect
      rw [List.filter_cons_of_neg (by simp [succeeded]), effect]
      exact published

open Cluster

def surrounded (published others : Cluster) (time : Instant) : Simulation where
  cluster := { others with
    objects := fun kind key =>
      if kind = .clusterOperator then published.objects kind key else others.objects kind key }
  clock := time

theorem runs_reporting {α : Type} {s : Simulation} (free : s.traps = [])
    (running : s.isCancelled = false) (program : Program α) :
    program.Runs (world (reporting s.clock) Spares) s.cluster (s.exchanges program)
        (program.run Simulation.handle s).1 (program.run Simulation.handle s).2.cluster ∧
      s.Steady (program.run Simulation.handle s).2 := by
  refine Program.runs_exchanges s.Steady (fun c t steady => ?_) program s ⟨free, rfl, rfl⟩
  obtain ⟨kept, answered⟩ := Simulation.handle_steadily steady c
  refine ⟨kept, ?_⟩
  exact answered.imp (fun _ => False.elim) (fun _ => id) fun _ told => told.trans running

theorem happens_surrounded {config : Config} {checked : Except Error Bool} (others : Cluster)
    (time : Instant)
    (looked : ((checkRecommender config).run Simulation.handle (surrounded before others time)).1 =
      checked) : ∃ after, Happens ⟨config, checked, time,
        ((reportStatus config).run Simulation.handle (surrounded before others time)).1.isOk⟩
          before after := by
  obtain ⟨check, still, clock, told⟩ :=
    runs_reporting (s := surrounded before others time) rfl rfl (checkRecommender config)
  obtain ⟨publish, -⟩ := runs_reporting still told (publishReport config checked)
  rw [looked] at check
  rw [clock] at publish
  have spares : before.Spares (surrounded before others time).cluster := rfl
  rw [reportStatus_eq, run_bind, looked]
  exact ⟨_, _, _, _, _, check.after (.single spares), publish, rfl⟩

theorem Reported.succeeds (reported : Reported history before) {others : Cluster} {config : Config}
    {checked : Except Error Bool} (time : Instant)
    (working : ∀ verb, (verb, .clusterOperator) ∉ others.failing)
    (looked : ((checkRecommender config).run Simulation.handle (surrounded before others time)).1 =
      checked) : ∃ after, Reported (⟨config, checked, time, true⟩ :: history) after := by
  obtain ⟨after, happens⟩ := happens_surrounded others time looked
  have undisturbed : (surrounded before others time).Undisturbed .clusterOperator :=
    ⟨rfl, nofun, working⟩
  have named : (surrounded before others time).cluster.Named := reported.published.1.spares rfl
  rw [(reportStatus_run undisturbed nofun named config).1] at happens
  exact ⟨after, .report reported happens⟩

def rolledOut (release : String) : Cluster :=
  let config : Config := {}
  let owner : AutoscalerController :=
    { metadata := { namespaceName := config.watchNamespace, name := config.name } }
  let recommender : Deployment := {
    metadata := {
      namespaceName := config.operandNamespace
      name := Operand.recommender.resourceName config.name
      annotations := some (SortedMap.empty.insert releaseAnnotation release) }
    status := some { replicas := some 1, updatedReplicas := some 1, availableReplicas := some 1 } }
  (({} : Cluster).insert .controller owner).insert .deployment recommender

/-- What is published at any time is what the successful reports tell, and a report that fails
    changes nothing about it. -/
theorem published_after_reports {history : List Report} {cluster : Cluster}
    (reported : Reported history cluster) :
    (cluster.published? = none ↔ history.filter (·.succeeded) = []) ∧
      (∀ status, cluster.published? = some status →
        Tells (history.filter (·.succeeded)) status) ∧
      ∀ (r : Report) (after : Cluster), r.Happens cluster after → r.succeeded = false →
        after.published? = cluster.published? := by
  obtain ⟨named, published⟩ := reported.published
  refine ⟨?_, ?_, ?_⟩
  · cases stands : cluster.published? with
    | none =>
      rw [stands] at published
      exact iff_of_true rfl published
    | some status =>
      rw [stands] at published
      exact iff_of_false nofun published.1
  · intro status stands
    rw [stands] at published
    exact published.2
  · intro r after happens failed
    have effect := (happens.effect named).2
    rwa [if_neg (by simp [failed])] at effect

/-- Two releases are rolled out, and between them a report fails. So does another one after them. -/
theorem releases_published :
    let one : Config := { releaseVersion := "1" }
    let two : Config := { releaseVersion := "2" }
    let history : List Report := [
      ⟨two, .ok true, ⟨50, false⟩, true⟩,
      ⟨two, .ok false, ⟨40, false⟩, true⟩,
      ⟨two, .ok false, ⟨30, false⟩, false⟩,
      ⟨one, .ok true, ⟨20, false⟩, true⟩,
      ⟨one, .ok false, ⟨10, false⟩, true⟩]
    ∃ cluster status, Reported history cluster ∧ cluster.published? = some status ∧
      status.versions = some [⟨"operator", "2"⟩] ∧
      status.conditions.map Condition.told = [
        (.available, some .true, some (Instant.toText ⟨10, false⟩)),
        (.progressing, some .false, some (Instant.toText ⟨50, false⟩)),
        (.degraded, some .false, some (Instant.toText ⟨10, false⟩))] ∧
      ∃ (failing : Report) (after : Cluster), failing.succeeded = false ∧
        failing.Happens cluster after ∧ after.published? = cluster.published? := by
  intro one two history
  have working (release : String) (verb : Verb) :
      (verb, .clusterOperator) ∉ (rolledOut release).failing := List.not_mem_nil
  let broken := (rolledOut "1").fail .get .clusterOperator
  have start : Reported [] {} := .start rfl
  -- The recommender is behind, at the first release, asked for the second one, and at that.
  obtain ⟨_, first⟩ : ∃ after, Reported (⟨one, .ok false, ⟨10, false⟩, true⟩ :: []) after :=
    start.succeeds _ (working "0") rfl
  obtain ⟨_, second⟩ : ∃ after, Reported (⟨one, .ok true, ⟨20, false⟩, true⟩ :: _) after :=
    first.succeeds _ (working "1") rfl
  obtain ⟨_, third⟩ : ∃ after, Happens ⟨two, .ok false, ⟨30, false⟩, false⟩ _ after :=
    happens_surrounded broken _ rfl
  obtain ⟨_, fourth⟩ : ∃ after, Reported (⟨two, .ok false, ⟨40, false⟩, true⟩ :: _) after :=
    (second.report third).succeeds _ (working "1") rfl
  obtain ⟨cluster, fifth⟩ : ∃ after, Reported (⟨two, .ok true, ⟨50, false⟩, true⟩ :: _) after :=
    fourth.succeeds _ (working "2") rfl
  obtain ⟨unpublished, tells, kept⟩ := published_after_reports fifth
  obtain ⟨run, -⟩ :=
    runs_reporting (s := surrounded cluster broken ⟨60, false⟩) rfl rfl (reportStatus two)
  obtain ⟨checked, failing⟩ := (exists_happens_iff two ⟨60, false⟩ false cluster _).mpr
    ⟨_, _, run.after (.single rfl), rfl⟩
  cases stands : cluster.published? with
  | none => cases unpublished.mp stands
  | some status =>
    have told := tells status stands
    exact ⟨cluster, status, fifth, stands, told.versions, told.conditions, _, _, rfl, failing,
      stands ▸ kept _ _ failing rfl⟩

end Report

end AutoscalerOperator
