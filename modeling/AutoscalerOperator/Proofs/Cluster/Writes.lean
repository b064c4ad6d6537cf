import AutoscalerOperator.Proofs.Cluster.Settled

namespace AutoscalerOperator

open Kubernetes

/-- Whether a key is that of an object. An object without a name has the empty one. -/
def ObjectKey.Names (key : ObjectKey) (kind : Kind) (object : kind.Object) : Prop :=
  (kind.metadata object).namespaceName = key.namespaceName ∧
    (kind.metadata object).name.getD "" = key.name

namespace Cluster

variable {cluster after : Cluster} {kind : Kind} {key : ObjectKey}

def Keyed (cluster : Cluster) : Prop :=
  ∀ kind key object, cluster.find? kind key = some object → key.Names kind object

theorem names_of_keyOf {object : kind.Object} (keyed : keyOf kind object = .ok key) :
    key.Names kind object := by
  obtain ⟨space, name⟩ := (keyOf_eq_ok_iff object).mp keyed
  exact ⟨space, by rw [name]; rfl⟩

theorem keyOf_of_names {object : kind.Object} (names : key.Names kind object)
    (named : key.name ≠ "") : keyOf kind object = .ok key := by
  obtain ⟨space, name⟩ := names
  refine (keyOf_eq_ok_iff object).mpr ⟨space, ?_⟩
  cases own : (kind.metadata object).name with
  | none => rw [own] at name; exact absurd name.symm named
  | some text => rw [own] at name; exact congrArg some name

theorem names_recognized {object : kind.Object} (names : key.Names kind object) :
    key.Names kind (kind.recognized object) := by
  simpa [ObjectKey.Names] using names

/-- A write of any client: an object is stored under its key, as the next version. -/
inductive Writes (cluster : Cluster) : Cluster → Prop
  | write {kind : Kind} {key : ObjectKey} (object : kind.Object)
    (names : cluster.Keyed → key.Names kind object)
    (versioned : (kind.metadata object).resourceVersion = some cluster.version) :
    Writes cluster (cluster.write kind key object)

theorem Settles.writes {verb : Verb} {object stored : kind.Object}
    (settles : cluster.Settles verb kind object (.ok (stored, after))) : cluster.Writes after := by
  obtain ⟨-, key, keyed, makes, rfl⟩ := settles
  refine .write stored ?_ makes.resourceVersion
  have names := names_of_keyOf keyed
  generalize held : cluster.find? kind key = there at makes
  cases makes with
  | create => exact fun _ => by simpa [ObjectKey.Names, created] using names
  | replace => exact fun _ => by simpa [ObjectKey.Names, replaced] using names
  | @replaceStatus existing =>
    intro keyed
    have names := keyed kind key existing held
    simpa [ObjectKey.Names, restated] using names

theorem writes_of_create {object stored : kind.Object}
    (made : cluster.create kind object = .ok (stored, after)) : cluster.Writes after :=
  Settles.writes (made ▸ cluster.settles_create object)

theorem writes_of_replace {object stored : kind.Object}
    (written : cluster.replace kind object = .ok (stored, after)) : cluster.Writes after :=
  Settles.writes (written ▸ cluster.settles_replace object)

theorem writes_of_replaceStatus {object stored : kind.Object}
    (written : cluster.replaceStatus kind object = .ok (stored, after)) :
    cluster.Writes after :=
  Settles.writes (written ▸ cluster.settles_replaceStatus object)

theorem writes_of_answers {circumstances : Circumstances} {moves : Cluster → Cluster → Prop}
    {c : Call} {answer : c.Answer}
    (answered : (world circumstances moves).answers c cluster answer after) :
    after = cluster ∨ cluster.Writes after :=
  keeps_of_answers (P := fun after => after = cluster ∨ cluster.Writes after) (.inl rfl)
    (fun _ settles => .inr settles.writes) answered

theorem Keyed.write {object : kind.Object} (keyed : cluster.Keyed)
    (names : key.Names kind object) : (cluster.write kind key object).Keyed := by
  intro other key' stored found
  rcases find?_write_cases cluster kind key object found with ⟨rfl, rfl, rfl⟩ | found
  · exact names_recognized names
  · exact keyed other key' stored found

theorem Keyed.writes (keyed : cluster.Keyed) (written : cluster.Writes after) : after.Keyed := by
  obtain ⟨object, names, -⟩ := written
  exact keyed.write (names keyed)

theorem keyed_empty : Keyed {} := by
  intro kind key object found
  cases found

theorem Keyed.insert (keyed : cluster.Keyed) (kind : Kind) (object : kind.Object) :
    (cluster.insert kind object).Keyed := by
  have put (stored : kind.Object) (key : ObjectKey) (names : key.Names kind stored) :
      (cluster.put kind key stored).Keyed := keyed.write names
  unfold Cluster.insert
  dsimp only
  split
  · exact put object _ ⟨rfl, rfl⟩
  · exact put _ _ ⟨by simp, by simp⟩

end Cluster

end AutoscalerOperator
