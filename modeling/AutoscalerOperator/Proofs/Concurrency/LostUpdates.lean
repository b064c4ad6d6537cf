import AutoscalerOperator.Proofs.Concurrency.Careful
import AutoscalerOperator.Proofs.Reconcile.Object
import AutoscalerOperator.Proofs.Status.Runs

namespace AutoscalerOperator

open Kubernetes Program
open Relation (ReflTransGen)

section

variable {circumstances : Circumstances} {start final : Cluster} {owner : AutoscalerController}
  {config : Config} {trace : List (Exchange Cluster)}

open Cluster

theorem objectRun_careful {desired : ManagedObject} {result : Except Failure Outcome}
    (complete : desired.Complete) (sound : start.Sound)
    (run : ObjectRun (sharedWorld circumstances) owner desired start trace result final) :
    Careful circumstances (∃ failure, result = .error failure) trace := by
  cases run with
  | kept | created | unread => exact careful_of_no_updates (by simp [Call.Updates])
  | @updated before after again written _ current answer moved read drifted further answered left =>
    rw [← List.singleton_append]
    refine careful_concat (by simp [Call.Updates]) ?_
    rintro _ _ _ _ ⟨⟩
    obtain ⟨sound, -⟩ := sound.moved moved
    obtain ⟨found, rfl⟩ := answers_get_ok read
    obtain ⟨-, follows⟩ := sound.moved further
    obtain ⟨annotations, metadata⟩ := desired.managed.metadata_converge current desired.object
    have keyed := keyOf_converge complete sound.keyed found
    refine ⟨desired.key, current, keyed, ⟨[], _, [], rfl, .got, by simp⟩, ?_, ?_⟩
    · exact writtenUpon_of_yields sound follows found keyed (by rw [metadata]) answered
    · rintro e rfl
      exact ⟨_, rfl⟩

theorem reconcileAndTell_careful {desired : ManagedObject} {result : Except Error Unit}
    (complete : desired.Complete) (sound : start.Sound)
    (run : (reconcileAndTell owner config desired).Runs (sharedWorld circumstances) start trace
      result final) : Careful circumstances (∃ e, result = .error e) trace := by
  obtain ⟨first, outcome, middle, rest, object, -, rfl, rfl, events, -⟩ :=
    runs_reconcileAndTell run
  have careful := objectRun_careful complete sound object
  refine (careful.imp ?_).append (careful_of_no_updates ?_)
  · rintro ⟨failure, rfl⟩
    exact ⟨failure.error, rfl⟩
  · intro exchange member
    obtain ⟨event, same⟩ := events exchange member
    simp [same, Call.Updates]

theorem reconcileAll_careful {objects : List ManagedObject} {result : Except Error Unit}
    (complete : ∀ desired ∈ objects, desired.Complete) (sound : start.Sound)
    (run : (reconcileAll owner config objects).Runs (sharedWorld circumstances) start trace result
      final) (room : ∀ exchange ∈ trace, exchange.before.HasRoom) :
    Careful circumstances (∃ e, result = .error e) trace := by
  induction objects generalizing start trace with
  | nil =>
    obtain ⟨rfl, -, -⟩ := runs_done_iff.mp run
    exact careful_of_no_updates (by simp)
  | cons desired rest ih =>
    obtain ⟨first, told, middle, last, head, tail, rfl⟩ := runs_bind_iff.mp run
    obtain ⟨early, late⟩ := List.forall_mem_append.mp room
    have careful := reconcileAndTell_careful (complete desired List.mem_cons_self) sound head
    cases told with
    | ok done =>
      have others : ∀ other ∈ rest, other.Complete :=
        fun other member => complete other (List.mem_cons_of_mem _ member)
      exact (careful.imp (by simp)).append (ih others (sound.ran head early).1 tail late)
    | error e =>
      obtain ⟨rfl, rfl, -⟩ := runs_done_iff.mp tail
      rw [List.append_nil]
      exact careful

theorem reconcile_careful {namespaceName name : String} {result : Except Error Unit}
    (sound : start.Sound)
    (run : (reconcile config namespaceName name).Runs (sharedWorld circumstances) start trace result
      final) (room : ∀ exchange ∈ trace, exchange.before.HasRoom) :
    Careful circumstances (∃ e, result = .error e) trace := by
  unfold reconcile at run
  split at run
  · obtain ⟨before, answer, after, rest, moved, read, upon, rfl⟩ := runs_ask_iff.mp run
    rw [← List.singleton_append]
    refine (careful_of_no_updates (by simp [Call.Updates])).append ?_
    obtain ⟨here, later⟩ := List.forall_mem_cons.mp room
    obtain ⟨sound, -⟩ := sound.moved moved
    obtain ⟨sound, -⟩ := sound.answered here read
    cases answer with
    | ok owner =>
      exact reconcileAll_careful (complete_desiredObjects owner config) sound upon later
    | error e =>
      change Runs _ (if e.isNotFound then _ else _) _ _ _ _ at upon
      split at upon <;>
      · obtain ⟨rfl, -, -⟩ := runs_done_iff.mp upon
        exact careful_of_no_updates (by simp)
  · obtain ⟨rfl, -, -⟩ := runs_done_iff.mp run
    exact careful_of_no_updates (by simp)

theorem openingRun_quiet {world : World Cluster} {result : Except Error ClusterOperator}
    (run : OpeningRun world start trace result final) :
    ∀ exchange ∈ trace, ¬exchange.call.Updates := by
  cases run <;> simp [Call.Updates]

theorem openingRun_shows {existing : ClusterOperator} (sound : start.Sound)
    (run : OpeningRun (sharedWorld circumstances) start trace (.ok existing) final)
    (room : ∀ exchange ∈ trace, exchange.before.HasRoom) :
    LastSeen trace .clusterOperator operatorKey existing ∧
      keyOf .clusterOperator existing = .ok operatorKey ∧
      ∃ seen : Cluster, seen.Sound ∧ seen.find? .clusterOperator operatorKey = some existing ∧
        seen.Follows final ∧ final.Sound := by
  cases run with
  | found moved read left =>
    obtain ⟨sound, -⟩ := sound.moved moved
    obtain ⟨found, rfl⟩ := answers_get_ok read
    have keyed := keyOf_of_names (sound.keyed _ _ _ found) (by decide)
    obtain ⟨last, follows⟩ := sound.moved left
    exact ⟨⟨[], _, [], rfl, .got, by simp⟩, keyed, _, sound, found, follows, last⟩
  | created moved read absent further answered left =>
    obtain ⟨here, later⟩ := List.forall_mem_cons.mp room
    obtain ⟨sound, -⟩ := sound.moved moved
    obtain ⟨sound, -⟩ := sound.answered here read
    obtain ⟨sound, -⟩ := sound.moved further
    obtain ⟨sound, -⟩ := sound.answered (later _ List.mem_cons_self) answered
    obtain ⟨key, fresh, -, stored, rfl⟩ := create_eq_ok answered
    have own : keyOf .clusterOperator ClusterOperator.fresh = .ok operatorKey := rfl
    rw [own] at fresh
    cases fresh
    subst stored
    obtain ⟨last, follows⟩ := sound.moved left
    exact ⟨⟨[_], _, [], rfl, .created rfl, by simp⟩, rfl, _, sound, find?_created .., follows,
      last⟩

theorem applyRun_careful {reported : ClusterOperatorStatus} {result : Except Error Unit}
    (sound : start.Sound)
    (run : ApplyRun circumstances ClientWrite config reported start trace result final)
    (room : ∀ exchange ∈ trace, exchange.before.HasRoom) :
    Careful circumstances (∃ e, result = .error e) trace := by
  cases run with
  | stopped => exact careful_of_no_updates (by simp [Call.Updates])
  | unopened moved shown left =>
    have quiet := openingRun_quiet shown
    exact careful_of_no_updates (by simpa using quiet)
  | kept moved shown further clock same left =>
    have quiet := openingRun_quiet shown
    exact careful_of_no_updates (by simpa [or_imp, forall_and] using quiet)
  | late moved shown further stop left last =>
    have quiet := openingRun_quiet shown
    exact careful_of_no_updates (by simpa [or_imp, forall_and] using quiet)
  | @written told opened clocked again before after _ opening existing now answer moved shown
      further clock changed asked ready answered left =>
    have quiet := openingRun_quiet shown
    obtain ⟨sound, -⟩ := sound.moved moved
    have opened : ∀ exchange ∈ opening, exchange.before.HasRoom :=
      fun exchange member => room exchange (by simp [member])
    obtain ⟨last, keyed, seen, known, found, follows, sound⟩ := openingRun_shows sound shown opened
    obtain ⟨-, -, version⟩ := existing.metadata_reporting config reported now
    have own := ClusterOperator.keyOf_reporting keyed config reported now
    obtain ⟨-, waited⟩ := sound.moved ((further.trans asked).trans ready)
    have split (first second third write : Exchange Cluster) :
        first :: (opening ++ [second, third, write]) =
          (first :: (opening ++ [second, third])) ++ [write] := by simp
    rw [split]
    refine careful_concat (by simpa [or_imp, forall_and] using quiet) ?_
    rintro _ _ _ _ ⟨⟩
    refine ⟨operatorKey, existing, own, ?_, ?_, ?_⟩
    · refine (last.append_blind fun later member other shows => ?_).append [_]
      simp only [List.mem_cons, List.not_mem_nil, or_false] at member
      rcases member with rfl | rfl <;> cases shows
    · exact writtenUpon_of_yields known (follows.trans waited) found own version answered
    · rintro e rfl
      exact ⟨e, rfl⟩

theorem reportStatus_careful {result : Except Error Bool} (sound : start.Sound)
    (run : (reportStatus config).Runs (sharedWorld circumstances) start trace result final)
    (room : ∀ exchange ∈ trace, exchange.before.HasRoom) :
    Careful circumstances (∃ e, result = .error e) trace := by
  rw [reportStatus_eq] at run
  obtain ⟨first, checked, middle, rest, check, publish, rfl⟩ := runs_bind_iff.mp run
  obtain ⟨applied, apply, rfl⟩ := applyRun_of_publishReport publish
  obtain ⟨early, late⟩ := List.forall_mem_append.mp room
  have reads := checkRecommender_reads check
  refine (careful_of_no_updates fun exchange member => ?_).append
    ((applyRun_careful (sound.ran check early).1 apply late).imp ?_)
  · exact (reads exchange member).not_updates
  · rintro ⟨e, rfl⟩
    exact ⟨_, rfl⟩

end

open Cluster

/-- Whatever other clients write meanwhile, neither a pass nor a report overwrites an object that is
    not the very one it has last seen. Where it would, it has no effect and fails. -/
theorem no_lost_updates {circumstances : Circumstances} {start : Cluster} (sound : start.Sound)
    (config : Config) :
    (∀ namespaceName name trace result final,
      (reconcile config namespaceName name).Runs (sharedWorld circumstances) start trace result
        final → (∀ exchange ∈ trace, exchange.before.HasRoom) →
          Careful circumstances (∃ e, result = .error e) trace) ∧
      ∀ trace result final,
        (reportStatus config).Runs (sharedWorld circumstances) start trace result final →
          (∀ exchange ∈ trace, exchange.before.HasRoom) →
            Careful circumstances (∃ e, result = .error e) trace :=
  ⟨fun _ _ _ _ _ run room => reconcile_careful sound run room,
    fun _ _ _ run room => reportStatus_careful sound run room⟩

/-- Another client replaces the reporter's object right before the reporter writes on it. -/
theorem late_report :
    let start := ({} : Cluster).insert .clusterOperator .fresh
    let circumstances : Circumstances := { failures := fun _ => False }
    let result : Except Error Bool :=
      .error (.context "failed to set available status" (conflict operatorName))
    ∃ trace final, (reportStatus {}).Runs (sharedWorld circumstances) start trace result final ∧
      Careful circumstances (∃ e, result = .error e) trace := by
  intro start circumstances result
  let existing : ClusterOperator := { metadata := { name := operatorName, resourceVersion := "1" } }
  let theirs : ClusterOperator := start.replaced .clusterOperator existing existing
  let visited := start.write .clusterOperator operatorKey theirs
  let ours : ClusterOperator := (existing.reporting {} (availableStatus {}) default).value
  have keyed : keyOf .clusterOperator ours = .ok operatorKey := rfl
  have stored : visited.find? .clusterOperator operatorKey = some theirs := rfl
  have stale : isCurrent .clusterOperator theirs ours = false := by decide
  have refused : visited.replaceStatus .clusterOperator ours = .error (conflict operatorName) := by
    rw [replaceStatus, update_eq, if_neg (by decide)]
    simp only [keyed, stored, stale]
    rfl
  let Answers := (sharedWorld circumstances).answers
  have missing : Answers (.get .controller (some ({} : Config).watchNamespace) ({} : Config).name)
      start (.error (notFound .controller "default")) start := ⟨rfl, .inl rfl⟩
  have running : Answers .cancelled start false start := ⟨trivial, rfl⟩
  have found : Answers (.get .clusterOperator none operatorName) start (.ok existing) start := rfl
  have clock : Answers .now start default start := ⟨trivial, rfl⟩
  have replaced : start.replace .clusterOperator existing = .ok (theirs, visited) := rfl
  have late : Answers (.replaceStatus .clusterOperator ours) visited
      (.error (conflict operatorName)) visited := ⟨rfl, .inl refused⟩
  have early : start.HasRoom := by decide
  have later : visited.HasRoom := by decide
  obtain ⟨trace, final, run, room⟩ : ∃ trace final,
      (reportStatus {}).Runs (sharedWorld circumstances) start trace result final ∧
        ∀ exchange ∈ trace, exchange.before.HasRoom := by
    refine ⟨_, _, .call .refl missing (.call .refl running (.call .refl found (.call .refl clock
      (.call .refl running (.call (.single (.replace early replaced)) late (.done .refl)))))), ?_⟩
    simp [early, later]
  have sound : start.Sound := sound_empty.insert (by decide) _ _ rfl
  exact ⟨trace, final, run, (no_lost_updates sound {}).2 _ _ _ run room⟩

end AutoscalerOperator
