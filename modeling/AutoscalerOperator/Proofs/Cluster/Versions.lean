import AutoscalerOperator.Proofs.Cluster.Writes
import AutoscalerOperator.Proofs.Text.Numeral

namespace AutoscalerOperator

open Kubernetes

namespace Cluster

variable {cluster earlier later : Cluster} {kind : Kind} {key : ObjectKey}

def HasVersion (kind : Kind) (object : kind.Object) (number : UInt64) : Prop :=
  (kind.metadata object).resourceVersion = some (toString number)

theorem HasVersion.eq_of_same {other : Kind} {left right : UInt64} {object : kind.Object}
    {object' : other.Object} (first : HasVersion kind object left)
    (second : HasVersion other object' right)
    (same : (kind.metadata object).resourceVersion = (other.metadata object').resourceVersion) :
    left = right :=
  toString_injective (Option.some.inj ((first.symm.trans same).trans second))

theorem HasVersion.eq {left right : UInt64} {object : kind.Object}
    (first : HasVersion kind object left) (second : HasVersion kind object right) :
    left = right :=
  first.eq_of_same second rfl

theorem HasVersion.recognized {number : UInt64} {object : kind.Object}
    (version : HasVersion kind object number) :
    HasVersion kind (kind.recognized object) number :=
  (congrArg _ (kind.metadata_recognized object)).trans version

/-- Every object is stored under its key, with a version that the cluster gave it. -/
structure Sound (cluster : Cluster) : Prop where
  keyed : cluster.Keyed
  versioned : ∀ kind key object, cluster.find? kind key = some object →
    ∃ number, number < cluster.nextVersion ∧ HasVersion kind object number

/-- Whether a cluster comes after another one: what is stored in it was there before, or is of a
    version that had not been given out yet. -/
structure Follows (earlier later : Cluster) : Prop where
  counted : earlier.nextVersion ≤ later.nextVersion
  kept : ∀ kind key, later.find? kind key = earlier.find? kind key ∨
    ∃ object number, later.find? kind key = some object ∧ HasVersion kind object number ∧
      earlier.nextVersion ≤ number

theorem Follows.refl (cluster : Cluster) : cluster.Follows cluster :=
  ⟨UInt64.le_refl _, fun _ _ => .inl rfl⟩

theorem Follows.trans {last : Cluster} (first : earlier.Follows later)
    (second : later.Follows last) : earlier.Follows last where
  counted := UInt64.le_trans first.counted second.counted
  kept kind key := by
    rcases second.kept kind key with same | ⟨object, number, found, version, fresh⟩
    · rw [same]
      exact first.kept kind key
    · exact .inr ⟨object, number, found, version, UInt64.le_trans first.counted fresh⟩

theorem follows_write {object : kind.Object} (room : cluster.HasRoom)
    (version : HasVersion kind object cluster.nextVersion) :
    cluster.Follows (cluster.write kind key object) := by
  refine ⟨UInt64.le_of_lt room.lt_next, fun other key' => ?_⟩
  by_cases kinds : kind = other
  · subst kinds
    by_cases keys : key = key'
    · subst keys
      exact .inr ⟨_, _, find?_write_self .., version.recognized, UInt64.le_refl _⟩
    · exact .inl (find?_write_of_key_ne cluster object keys)
  · exact .inl (find?_write_of_kind_ne cluster object kinds)

theorem Writes.follows (written : earlier.Writes later) (room : earlier.HasRoom) :
    earlier.Follows later := by
  obtain ⟨object, -, versioned⟩ := written
  exact follows_write room versioned

theorem Writes.sound (written : earlier.Writes later) (room : earlier.HasRoom)
    (sound : earlier.Sound) : later.Sound := by
  refine ⟨sound.keyed.writes written, ?_⟩
  obtain ⟨object, names, versioned⟩ := written
  intro kind key stored found
  rcases find?_write_cases earlier _ _ object found with ⟨rfl, rfl, rfl⟩ | found
  · exact ⟨earlier.nextVersion, room.lt_next, HasVersion.recognized versioned⟩
  · obtain ⟨number, given, version⟩ := sound.versioned kind key stored found
    exact ⟨number, UInt64.lt_trans given room.lt_next, version⟩

theorem Follows.find?_eq (follows : earlier.Follows later) (sound : earlier.Sound)
    {read stored : kind.Object} (seen : earlier.find? kind key = some read)
    (found : later.find? kind key = some stored)
    (same : (kind.metadata stored).resourceVersion = (kind.metadata read).resourceVersion) :
    stored = read := by
  obtain ⟨number, given, version⟩ := sound.versioned kind key read seen
  rcases follows.kept kind key with kept | ⟨object, fresh, written, later, new⟩
  · rw [found, seen] at kept
    exact Option.some.inj kept
  · rw [found] at written
    cases written
    -- The version that was read had been given out by then, the one that is stored had not.
    obtain rfl := HasVersion.eq later (same.trans version)
    exact absurd (UInt64.lt_of_lt_of_le given new) (UInt64.lt_irrefl _)

theorem update_seen {verb : Verb} {read object stored : kind.Object} {after : Cluster}
    {result : kind.Object → kind.Object} (follows : earlier.Follows later) (sound : earlier.Sound)
    (seen : earlier.find? kind key = some read) (keyed : keyOf kind object = .ok key)
    (same : (kind.metadata object).resourceVersion = (kind.metadata read).resourceVersion)
    (written : later.update verb kind object result = .ok (stored, after)) :
    later.find? kind key = some read := by
  obtain ⟨key', existing, own, found, current, -, -⟩ := update_eq_ok written
  rw [keyed] at own
  cases own
  obtain ⟨number, -, version⟩ := sound.versioned kind key read seen
  have stands : (kind.metadata existing).resourceVersion = (kind.metadata read).resourceVersion := by
    unfold isCurrent at current
    rw [same, version] at current
    rw [version]
    exact eq_of_beq current
  rw [found, follows.find?_eq sound seen found stands]

theorem sound_empty : Sound {} := ⟨keyed_empty, fun _ _ _ found => by cases found⟩

theorem Sound.insert (sound : cluster.Sound) (room : cluster.HasRoom) (kind : Kind)
    (object : kind.Object) (unversioned : (kind.metadata object).resourceVersion = none) :
    (cluster.insert kind object).Sound := by
  refine ⟨sound.keyed.insert kind object, ?_⟩
  unfold Cluster.insert
  simp only [unversioned]
  intro other key stored found
  rcases find?_write_cases cluster _ _ _ found with ⟨rfl, rfl, rfl⟩ | found
  · exact ⟨cluster.nextVersion, room.lt_next, by simp [HasVersion, version]⟩
  · obtain ⟨number, given, version⟩ := sound.versioned other key stored found
    exact ⟨number, UInt64.lt_trans given room.lt_next, version⟩

end Cluster

end AutoscalerOperator
