import AutoscalerOperator.Proofs.Execution.Footprint
import AutoscalerOperator.Proofs.Status.Merging
import AutoscalerOperator.Status.Report

namespace AutoscalerOperator

open Kubernetes Program
open Relation (ReflTransGen)

def ClusterOperator.reporting (existing : ClusterOperator) (config : Config)
    (reported : ClusterOperatorStatus) (now : Instant) : Merged ClusterOperator :=
  mergeClusterOperator existing { existing with
    status := some (completedStatus config (existing.status.getD {}) reported now) }

theorem ClusterOperator.metadata_reporting (existing : ClusterOperator) (config : Config)
    (reported : ClusterOperatorStatus) (now : Instant) :
    (existing.reporting config reported now).value.metadata.name = existing.metadata.name ∧
      (existing.reporting config reported now).value.metadata.namespaceName =
        existing.metadata.namespaceName ∧
      (existing.reporting config reported now).value.metadata.resourceVersion =
        existing.metadata.resourceVersion :=
  mergeMetadata_self existing.metadata

def operatorKey : ObjectKey := ⟨none, operatorName⟩

theorem ClusterOperator.keyOf_reporting {existing : ClusterOperator}
    (keyed : Cluster.keyOf .clusterOperator existing = .ok operatorKey) (config : Config)
    (reported : ClusterOperatorStatus) (now : Instant) :
    Cluster.keyOf .clusterOperator (existing.reporting config reported now).value =
      .ok operatorKey := by
  obtain ⟨name, space, -⟩ := existing.metadata_reporting config reported now
  have place := (Cluster.keyOf_eq_ok_iff _).mp keyed
  exact (Cluster.keyOf_eq_ok_iff _).mpr ⟨space.trans place.1, name.trans place.2⟩

def ClusterOperator.fresh : ClusterOperator := { metadata := { name := some operatorName } }

inductive OpeningRun {σ : Type} (world : World σ) (start : σ) :
    List (Exchange σ) → Except Error ClusterOperator → σ → Prop
  | found {before after final : σ} {existing : ClusterOperator}
    (moved : ReflTransGen world.moves start before)
    (read : world.answers (.get .clusterOperator none operatorName) before (.ok existing) after)
    (left : ReflTransGen world.moves after final) :
    OpeningRun world start [⟨.get .clusterOperator none operatorName, .ok existing, before, after⟩]
      (.ok existing) final
  | created {before after again written final : σ} {e : Error}
    {answer : Except Error ClusterOperator} (moved : ReflTransGen world.moves start before)
    (read : world.answers (.get .clusterOperator none operatorName) before (.error e) after)
    (absent : e.isNotFound = true) (further : ReflTransGen world.moves after again)
    (answered : world.answers (.create .clusterOperator .fresh) again answer written)
    (left : ReflTransGen world.moves written final) :
    OpeningRun world start
      [⟨.get .clusterOperator none operatorName, .error e, before, after⟩,
        ⟨.create .clusterOperator .fresh, answer, again, written⟩] answer final
  | unread {before after final : σ} {e : Error}
    (moved : ReflTransGen world.moves start before)
    (read : world.answers (.get .clusterOperator none operatorName) before (.error e) after)
    (unclear : e.isNotFound = false) (left : ReflTransGen world.moves after final) :
    OpeningRun world start [⟨.get .clusterOperator none operatorName, .error e, before, after⟩]
      (.error e) final

theorem openingRun_of_runs {σ : Type} {world : World σ} {start final : σ}
    {trace : List (Exchange σ)} {result : Except Error ClusterOperator}
    (run : getOrCreateClusterOperator.Runs world start trace result final) :
    OpeningRun world start trace result final := by
  obtain ⟨before, answer, after, rest, moved, read, upon, rfl⟩ := runs_ask_iff.mp run
  cases answer with
  | ok existing =>
    obtain ⟨rfl, rfl, left⟩ := runs_done_iff.mp upon
    exact .found moved read left
  | error e =>
    change Runs world (if e.isNotFound then _ else _) _ _ _ _ at upon
    cases absent : e.isNotFound with
    | true =>
      rw [if_pos absent] at upon
      obtain ⟨again, answer, written, rest, further, answered, last, rfl⟩ := runs_call_iff.mp upon
      obtain ⟨rfl, rfl, left⟩ := runs_done_iff.mp last
      exact .created moved read absent further answered left
    | false =>
      rw [if_neg (by simp [absent])] at upon
      obtain ⟨rfl, rfl, left⟩ := runs_done_iff.mp upon
      exact .unread moved read absent left

section

variable {circumstances : Circumstances} {moves : Cluster → Cluster → Prop}

inductive ApplyRun (circumstances : Circumstances) (moves : Cluster → Cluster → Prop)
    (config : Config) (reported : ClusterOperatorStatus) (start : Cluster) :
    List (Exchange Cluster) → Except Error Unit → Cluster → Prop
  | stopped {told final : Cluster} (moved : ReflTransGen moves start told)
    (stop : circumstances.stopped true) (left : ReflTransGen moves told final) :
    ApplyRun circumstances moves config reported start [⟨.cancelled, true, told, told⟩] (.ok ())
      final
  | unopened {told opened final : Cluster} {opening : List (Exchange Cluster)} {e : Error}
    (moved : ReflTransGen moves start told)
    (shown : OpeningRun (Cluster.world circumstances moves) told opening (.error e) opened)
    (left : ReflTransGen moves opened final) :
    ApplyRun circumstances moves config reported start
      (⟨.cancelled, false, told, told⟩ :: opening) (.error e) final
  | kept {told opened clocked final : Cluster} {opening : List (Exchange Cluster)}
    {existing : ClusterOperator} {now : Instant} (moved : ReflTransGen moves start told)
    (shown : OpeningRun (Cluster.world circumstances moves) told opening (.ok existing) opened)
    (further : ReflTransGen moves opened clocked) (clock : circumstances.clock now)
    (same : (existing.reporting config reported now).changed = false)
    (left : ReflTransGen moves clocked final) :
    ApplyRun circumstances moves config reported start
      (⟨.cancelled, false, told, told⟩ :: (opening ++ [⟨.now, now, clocked, clocked⟩])) (.ok ())
      final
  | late {told opened clocked again final : Cluster} {opening : List (Exchange Cluster)}
    {existing : ClusterOperator} {now : Instant} (moved : ReflTransGen moves start told)
    (shown : OpeningRun (Cluster.world circumstances moves) told opening (.ok existing) opened)
    (further : ReflTransGen moves opened clocked) (stop : circumstances.stopped true)
    (left : ReflTransGen moves clocked again) (last : ReflTransGen moves again final) :
    ApplyRun circumstances moves config reported start
      (⟨.cancelled, false, told, told⟩ :: (opening ++
        [⟨.now, now, clocked, clocked⟩, ⟨.cancelled, true, again, again⟩])) (.ok ()) final
  | written {told opened clocked again before after final : Cluster}
    {opening : List (Exchange Cluster)} {existing : ClusterOperator} {now : Instant}
    {answer : Except Error ClusterOperator} (moved : ReflTransGen moves start told)
    (shown : OpeningRun (Cluster.world circumstances moves) told opening (.ok existing) opened)
    (further : ReflTransGen moves opened clocked) (clock : circumstances.clock now)
    (changed : (existing.reporting config reported now).changed = true)
    (asked : ReflTransGen moves clocked again) (ready : ReflTransGen moves again before)
    (answered : (Cluster.world circumstances moves).answers
      (.replaceStatus .clusterOperator (existing.reporting config reported now).value) before answer
      after)
    (left : ReflTransGen moves after final) :
    ApplyRun circumstances moves config reported start
      (⟨.cancelled, false, told, told⟩ :: (opening ++
        [⟨.now, now, clocked, clocked⟩, ⟨.cancelled, false, again, again⟩,
          ⟨.replaceStatus .clusterOperator (existing.reporting config reported now).value, answer,
            before, after⟩])) (answer.map fun _ => ()) final

theorem applyRun_of_runs {config : Config} {reported : ClusterOperatorStatus}
    {start final : Cluster} {trace : List (Exchange Cluster)} {result : Except Error Unit}
    (run : (applyStatus config reported).Runs (Cluster.world circumstances moves) start trace result
      final) : ApplyRun circumstances moves config reported start trace result final := by
  obtain ⟨told, stop, _, rest, moved, ⟨allowed, rfl⟩, upon, rfl⟩ := runs_ask_iff.mp run
  cases stop with
  | true =>
    obtain ⟨rfl, rfl, left⟩ := runs_done_iff.mp upon
    exact .stopped moved allowed left
  | false =>
    obtain ⟨opening, opened, middle, rest, shown, next, rfl⟩ := runs_bind_iff.mp upon
    replace shown := openingRun_of_runs shown
    cases opened with
    | error e =>
      obtain ⟨rfl, rfl, left⟩ := runs_done_iff.mp next
      rw [List.append_nil]
      exact .unopened moved shown left
    | ok existing =>
      obtain ⟨clocked, now, _, rest, further, ⟨clock, rfl⟩, writing, rfl⟩ := runs_ask_iff.mp next
      change Runs _ (if (existing.reporting config reported now).changed then _ else _)
        _ _ _ _ at writing
      cases changed : (existing.reporting config reported now).changed with
      | false =>
        rw [if_neg (by simp [changed])] at writing
        obtain ⟨rfl, rfl, left⟩ := runs_done_iff.mp writing
        exact .kept moved shown further clock changed left
      | true =>
        rw [if_pos changed] at writing
        obtain ⟨again, stop, _, rest, asked, ⟨allowed, rfl⟩, last, rfl⟩ := runs_ask_iff.mp writing
        cases stop with
        | true =>
          obtain ⟨rfl, rfl, left⟩ := runs_done_iff.mp last
          exact .late moved shown further allowed asked left
        | false =>
          obtain ⟨before, answer, after, rest, ready, answered, done, rfl⟩ := runs_ask_iff.mp last
          cases answer <;>
          · obtain ⟨rfl, rfl, left⟩ := runs_done_iff.mp done
            exact .written moved shown further clock changed asked ready answered left

def publishReport (config : Config) (checked : Except Error Bool) :
    Program (Except Error Bool) := do
  match ← applyStatus config (statusOf config checked) with
  | .ok _ => return .ok (checked.toOption.getD false)
  | .error e => return .error (publishFailure checked e)

theorem reportStatus_eq (config : Config) :
    reportStatus config = checkRecommender config >>= publishReport config :=
  rfl

theorem applyRun_of_publishReport {config : Config} {checked result : Except Error Bool}
    {start final : Cluster} {trace : List (Exchange Cluster)}
    (run : (publishReport config checked).Runs (Cluster.world circumstances moves) start trace result
      final) :
    ∃ applied, ApplyRun circumstances moves config (statusOf config checked) start trace applied
        final ∧ result =
          (applied.map fun _ => checked.toOption.getD false).mapError (publishFailure checked) := by
  obtain ⟨first, applied, middle, rest, apply, told, rfl⟩ := runs_bind_iff.mp run
  refine ⟨applied, ?_⟩
  cases applied <;>
  · obtain ⟨rfl, rfl, left⟩ := runs_done_iff.mp told
    rw [List.append_nil]
    exact ⟨applyRun_of_runs (apply.before left), rfl⟩

end

theorem checkRecommender_only {config : Config} {allowed : Call → Prop}
    (reads : ∀ kind namespaceName name, kind ≠ .clusterOperator →
      allowed (.get kind namespaceName name)) :
    (checkRecommender config).Only allowed := by
  refine only_bind (only_ask (reads _ _ _ nofun)) fun answer => ?_
  cases answer with
  | error e =>
    change Only allowed (if e.isNotFound then _ else _)
    split <;> trivial
  | ok owner =>
    refine only_bind (only_ask (reads _ _ _ nofun)) fun answer => ?_
    cases answer with
    | error e =>
      change Only allowed (if e.isNotFound then _ else _)
      split <;> trivial
    | ok deployment => trivial

theorem checkRecommender_reads {world : World Cluster} {config : Config}
    {checked : Except Error Bool} {start final : Cluster} {trace : List (Exchange Cluster)}
    (run : (checkRecommender config).Runs world start trace checked final) :
    ∀ exchange ∈ trace, exchange.call.Reads :=
  run.only (checkRecommender_only fun _ _ _ _ => trivial)

theorem getOrCreateClusterOperator_only :
    getOrCreateClusterOperator.Only (·.WritesOnly (· = .clusterOperator)) := by
  refine only_bind (only_ask trivial) fun answer => ?_
  cases answer with
  | ok found => trivial
  | error e =>
    change Only _ (if e.isNotFound then _ else _)
    split
    · exact only_ask rfl
    · trivial

theorem applyStatus_only (config : Config) (reported : ClusterOperatorStatus) :
    (applyStatus config reported).Only (·.WritesOnly (· = .clusterOperator)) := by
  refine only_bind (only_ask trivial) fun stop => ?_
  cases stop with
  | true => trivial
  | false =>
    refine only_bind getOrCreateClusterOperator_only fun shown => ?_
    cases shown with
    | error e => trivial
    | ok existing =>
      refine only_bind (only_ask trivial) fun now => ?_
      change Only _ (if (existing.reporting config reported now).changed then _ else _)
      split
      · refine only_bind (only_ask trivial) fun stop => ?_
        cases stop with
        | true => trivial
        | false => exact only_bind (only_ask rfl) fun answer => by cases answer <;> trivial
      · trivial

theorem reportStatus_only (config : Config) :
    (reportStatus config).Only (·.WritesOnly (· = .clusterOperator)) := by
  refine only_bind (checkRecommender_only fun _ _ _ _ => trivial) fun checked => ?_
  refine only_bind (applyStatus_only config _) fun applied => ?_
  cases applied <;> trivial

end AutoscalerOperator
