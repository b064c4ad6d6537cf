import AutoscalerOperator.Proofs.Status.Runs

namespace AutoscalerOperator

open Kubernetes Program
open Relation (ReflTransGen)

namespace Cluster

def published? (cluster : Cluster) : Option ClusterOperatorStatus :=
  (cluster.find? .clusterOperator operatorKey).bind (·.status)

def Spares (before after : Cluster) : Prop :=
  after.find? .clusterOperator operatorKey = before.find? .clusterOperator operatorKey

/-- The reporter's object, if there is one, is stored under its key. -/
def Named (cluster : Cluster) : Prop :=
  ∀ operator, cluster.find? .clusterOperator operatorKey = some operator →
    keyOf .clusterOperator operator = .ok operatorKey

variable {before after : Cluster}

theorem published?_of_find? {operator : ClusterOperator}
    (found : before.find? .clusterOperator operatorKey = some operator) :
    before.published? = operator.status := by
  rw [published?, found]
  rfl

theorem recognized_published (cluster : Cluster) :
    (cluster.published?.getD {}).recognized = cluster.published?.getD {} := by
  cases found : cluster.find? .clusterOperator operatorKey with
  | none =>
    rw [published?, found]
    rfl
  | some operator =>
    rw [published?_of_find? found]
    exact recognized_status found

theorem named_of_find? {operator : ClusterOperator}
    (found : before.find? .clusterOperator operatorKey = some operator)
    (keyed : keyOf .clusterOperator operator = .ok operatorKey) : before.Named := by
  intro other again
  rw [found] at again
  cases again
  exact keyed

theorem spares_of_moves (moved : ReflTransGen Spares before after) : before.Spares after := by
  induction moved with
  | refl => rfl
  | tail _ move ih => exact move.trans ih

theorem Spares.published? (spares : before.Spares after) :
    after.published? = before.published? := by
  rw [Cluster.published?, Cluster.published?, spares]

theorem Named.spares (named : before.Named) (spares : before.Spares after) : after.Named := by
  intro operator found
  exact named operator (spares.symm.trans found)

theorem spares_of_reads {α : Type} {circumstances : Circumstances} {program : Program α}
    {start final : Cluster} {trace : List (Exchange Cluster)} {value : α}
    (run : program.Runs (world circumstances Spares) start trace value final)
    (reads : ∀ exchange ∈ trace, exchange.call.Reads) : start.Spares final := by
  induction run with
  | done moved => exact spares_of_moves moved
  | @call c next start before after final answer trace value moved answered _ ih =>
    have rest := ih fun exchange member => reads exchange (List.mem_cons_of_mem _ member)
    have same : after = before := by
      have read := reads _ List.mem_cons_self
      cases c with
      | get kind namespaceName name =>
        cases answer with
        | ok object => exact (answers_get_ok answered).2
        | error e => exact (answers_get_error answered).1
      | _ => cases read
    rw [same] at rest
    exact rest.trans (spares_of_moves moved)

end Cluster

open Cluster

variable {circumstances : Circumstances} {config : Config} {reported : ClusterOperatorStatus}
  {start final : Cluster} {trace : List (Exchange Cluster)}

theorem openingRun_effect {existing : ClusterOperator} (named : start.Named)
    (run : OpeningRun (world circumstances Spares) start trace (.ok existing) final) :
    final.find? .clusterOperator operatorKey = some existing ∧
      keyOf .clusterOperator existing = .ok operatorKey ∧ existing.status = start.published? := by
  cases run with
  | found moved read left =>
    obtain ⟨found, rfl⟩ := answers_get_ok read
    have spares := spares_of_moves moved
    have status := (published?_of_find? found).symm.trans spares.published?
    exact ⟨(spares_of_moves left).trans found, named.spares spares existing found, status⟩
  | created moved read absent further answered left =>
    obtain ⟨rfl, -⟩ := answers_get_error read
    obtain ⟨key, fresh, missing, rfl, rfl⟩ := create_eq_ok answered
    have own : keyOf .clusterOperator ClusterOperator.fresh = .ok operatorKey := rfl
    rw [own] at fresh
    cases fresh
    have spares := (spares_of_moves further).trans (spares_of_moves moved)
    have unpublished : start.published? = none := by
      rw [published?, ← spares, missing]
      rfl
    exact ⟨(spares_of_moves left).trans (find?_created ..), rfl, unpublished.symm⟩

theorem opened_effect {existing : ClusterOperator} {told opened later : Cluster}
    (named : start.Named) (moved : ReflTransGen Spares start told)
    (shown : OpeningRun (world circumstances Spares) told trace (.ok existing) opened)
    (left : ReflTransGen Spares opened later) :
    later.find? .clusterOperator operatorKey = some existing ∧
      keyOf .clusterOperator existing = .ok operatorKey ∧ existing.status = start.published? := by
  have spared := spares_of_moves moved
  obtain ⟨found, keyed, status⟩ := openingRun_effect (named.spares spared) shown
  exact ⟨(spares_of_moves left).trans found, keyed, status.trans spared.published?⟩

theorem openingRun_error {e : Error}
    (run : OpeningRun (world circumstances Spares) start trace (.error e) final) :
    start.Spares final := by
  cases run with
  | created moved read absent further answered left =>
    obtain ⟨rfl, -⟩ := answers_get_error read
    obtain ⟨rfl, -⟩ := answered
    exact (spares_of_moves left).trans ((spares_of_moves further).trans (spares_of_moves moved))
  | unread moved read unclear left =>
    obtain ⟨rfl, -⟩ := answers_get_error read
    exact (spares_of_moves left).trans (spares_of_moves moved)

def reporting (time : Instant) : Circumstances where
  clock := (· = time)
  stopped := (· = false)

def nextStatus (config : Config) (reported : ClusterOperatorStatus) (time : Instant)
    (published? : Option ClusterOperatorStatus) : Merged ClusterOperatorStatus :=
  mergeStatus (published?.getD {}) (completedStatus config (published?.getD {}) reported time)

theorem applyRun_effect {time : Instant} {result : Except Error Unit} (named : start.Named)
    (run : ApplyRun (reporting time) Spares config reported start trace result final) :
    final.Named ∧
      ((∃ e, result = .error e) ∧ final.published? = start.published? ∨
        result = .ok () ∧
          (final.published? =
              some (nextStatus config reported time start.published?).value.recognized ∨
            final.published? = start.published? ∧
              (nextStatus config reported time start.published?).changed = false)) := by
  cases run with
  | stopped moved stop left => cases stop
  | late moved shown further stop left last => cases stop
  | unopened moved shown left =>
    have spares : start.Spares final := (spares_of_moves left).trans
      ((openingRun_error shown).trans (spares_of_moves moved))
    exact ⟨named.spares spares, .inl ⟨⟨_, rfl⟩, spares.published?⟩⟩
  | @kept told opened clocked _ opening existing now moved shown further clock same left =>
    cases clock
    obtain ⟨stored, keyed, status⟩ := opened_effect named moved shown (further.trans left)
    refine ⟨named_of_find? stored keyed, .inr ⟨rfl, .inr ⟨?_, ?_⟩⟩⟩
    · exact (published?_of_find? stored).trans status
    · rw [nextStatus, ← status]
      exact (Bool.or_eq_false_iff.mp same).2
  | @written told opened clocked again before after _ opening existing now answer moved shown
      further clock changed asked ready answered left =>
    cases clock
    obtain ⟨stored, keyed, status⟩ :=
      opened_effect named moved shown ((further.trans asked).trans ready)
    cases answer with
    | error e =>
      obtain ⟨rfl, -⟩ := answered
      have last : final.find? .clusterOperator operatorKey = some existing :=
        (spares_of_moves left).trans stored
      refine ⟨named_of_find? last keyed, .inl ⟨⟨e, rfl⟩, ?_⟩⟩
      exact (published?_of_find? last).trans status
    | ok operator =>
      obtain ⟨key, current, own, stands, -, rfl, rfl⟩ := update_eq_ok answered
      rw [ClusterOperator.keyOf_reporting keyed] at own
      cases own
      rw [stored] at stands
      cases stands
      have last := (spares_of_moves left).trans (find?_restated ..)
      have still : keyOf .clusterOperator (before.restated .clusterOperator existing
          (existing.reporting config reported time).value) = .ok operatorKey := keyed
      refine ⟨named_of_find? last still, .inr ⟨rfl, .inl ?_⟩⟩
      rw [published?_of_find? last, nextStatus, ← status]
      rfl

end AutoscalerOperator
