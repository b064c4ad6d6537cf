import AutoscalerOperator.Proofs.Cluster.Settled

namespace AutoscalerOperator

open Kubernetes

namespace Cluster

def Behind (cluster : Cluster) (own : Option String) : Prop :=
  ∀ number, cluster.nextVersion ≤ number → own ≠ some (uid number)

/-- Whether nobody has a uid that the cluster has yet to give out. -/
def UidsBehind (cluster : Cluster) : Prop :=
  ∀ kind key object, cluster.find? kind key = some object →
    cluster.Behind (kind.metadata object).uid

variable {cluster after : Cluster} {verb : Verb} {kind : Kind} {object stored : kind.Object}

theorem Behind.mono {own : Option String} (behind : cluster.Behind own)
    (later : cluster.nextVersion ≤ after.nextVersion) : after.Behind own :=
  fun number ahead => behind number (UInt64.le_trans later ahead)

theorem Makes.behind {key : ObjectKey} (room : cluster.HasRoom)
    (makes : cluster.Makes kind object verb (cluster.find? kind key) stored)
    (behind : cluster.UidsBehind) (own : cluster.Behind (kind.metadata object).uid) :
    (cluster.write kind key stored).Behind (kind.metadata stored).uid := by
  have later : cluster.nextVersion ≤ (cluster.write kind key stored).nextVersion :=
    UInt64.le_of_lt room.lt_next
  rcases makes.uid with ⟨existing, held, same⟩ | same | given
  · exact same ▸ (behind kind key existing held).mono later
  · exact same ▸ own.mono later
  · intro number ahead same
    have behind : cluster.nextVersion < number := UInt64.lt_of_lt_of_le room.lt_next ahead
    exact UInt64.ne_of_lt behind (uid_injective (Option.some.inj (given.symm.trans same)))

theorem UidsBehind.settled (behind : cluster.UidsBehind) (room : cluster.HasRoom)
    (settles : cluster.Settles verb kind object (.ok (stored, after)))
    (own : cluster.Behind (kind.metadata object).uid) : after.UidsBehind := by
  obtain ⟨-, key, -, makes, rfl⟩ := settles
  intro other place held found
  rcases find?_write_cases cluster kind key stored found with ⟨rfl, rfl, rfl⟩ | found
  · rw [Kind.metadata_recognized]
    exact makes.behind room behind own
  · exact (behind other place held found).mono (UInt64.le_of_lt room.lt_next)

theorem UidsBehind.fresh (behind : cluster.UidsBehind)
    (settles : cluster.Settles .create kind object (.ok (stored, after)))
    (unset : (kind.metadata object).uid = none) {other : Kind} {place : ObjectKey}
    {held : other.Object} (found : cluster.find? other place = some held) :
    (other.metadata held).uid ≠ (kind.metadata stored).uid := by
  obtain ⟨-, key, -, makes, -⟩ := settles
  have given : (kind.metadata stored).uid = some (uid cluster.nextVersion) := by
    generalize cluster.find? kind key = there at makes
    cases makes
    simp [created, unset, uid, version]
  rw [given]
  exact behind other place held found _ (UInt64.le_refl _)

theorem UidsBehind.run {α : Type} {circumstances : Circumstances} {start final : Cluster}
    {program : Program α} {trace : List (Exchange Cluster)} {value : α}
    (behind : start.UidsBehind)
    (run : program.Runs (closedWorld circumstances) start trace value final)
    (own : ∀ exchange ∈ trace, ∀ kind object, exchange.call.Puts kind object →
      exchange.before.HasRoom ∧ exchange.before.Behind (kind.metadata object).uid) :
    final.UidsBehind := by
  refine run_keeps UidsBehind (fun cluster c => ∀ kind object, c.Puts kind object →
    cluster.HasRoom ∧ cluster.Behind (kind.metadata object).uid) (fun own answered behind => ?_)
    behind run own
  refine keeps_of_answers behind (fun puts settles => ?_) answered
  obtain ⟨room, own⟩ := own _ _ puts
  exact behind.settled room settles own

end Cluster

end AutoscalerOperator
