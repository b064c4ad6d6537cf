import AutoscalerOperator.Proofs.Cluster.Stored
import AutoscalerOperator.Proofs.Cluster.Uids

namespace AutoscalerOperator

open Kubernetes

namespace Cluster

/-- A cluster before and after an object was stored: nothing else is different, and the write is
    counted. -/
structure Wrote (before after : Cluster) (kind : Kind) (key : ObjectKey) (stored : kind.Object) :
    Prop where
  here : after.find? kind key = some stored
  elsewhere : ∀ other place, kind ≠ other ∨ key ≠ place →
    after.find? other place = before.find? other place
  nextVersion : after.nextVersion = before.nextVersion + 1
  writeCount : after.writeCount = before.writeCount + 1
  failing : after.failing = before.failing
  ready : after.ready = before.ready

theorem wrote_write (cluster : Cluster) (kind : Kind) (key : ObjectKey) {stored : kind.Object}
    (known : kind.recognized stored = stored) :
    cluster.Wrote (cluster.write kind key stored) kind key stored where
  here := by rw [find?_write_self, known]
  elsewhere _ _ different := find?_write_of_ne cluster stored different
  nextVersion := rfl
  writeCount := rfl
  failing := rfl
  ready := rfl

end Cluster

namespace Simulation

def Permits (s : Simulation) (verb : Verb) (kind : Kind) : Prop :=
  (Trap.spring verb kind s.traps).failure = none ∧ (verb, kind) ∉ s.cluster.failing

/-- Before and after an object was written. -/
structure Took (before after : Simulation) (verb : Verb) (kind : Kind) (key : ObjectKey)
    (object stored : kind.Object) : Prop where
  permitted : before.Permits verb kind
  keyed : Cluster.keyOf kind object = .ok key
  made : kind.StoredFrom before.cluster.nextVersion object verb
    (before.cluster.find? kind key) stored
  wrote : before.cluster.Wrote after.cluster kind key stored
  got : after.Permits .get kind →
    (handle (.get kind key.namespaceName key.name) after).1 = .ok stored
  told : kind.Readable object →
    (∀ existing, before.cluster.find? kind key = some existing → kind.Readable existing) →
      (ofJson (toJson stored) : Except _ kind.Object) = .ok stored
  /-- A uid that is given is nobody else's, and stays so until the numbers wrap around. -/
  uids : before.cluster.UidsBehind →
    (verb = .create → (kind.metadata object).uid = none → ∀ other place held,
      before.cluster.find? other place = some held →
        (other.metadata held).uid ≠ (kind.metadata stored).uid) ∧
    (before.cluster.HasRoom → before.cluster.Behind (kind.metadata object).uid →
      after.cluster.UidsBehind)

/-- A write is refused, for a reason and with no effect on the cluster, or the object is stored. -/
def AllOrNothing (s : Simulation) (verb : Verb) (kind : Kind) (object : kind.Object) :
    Except Error kind.Object × Simulation → Prop
  | (.error _, after) => after.cluster = s.cluster ∧
      (s.Permits verb kind → ∀ key stored, Cluster.keyOf kind object = .ok key →
        ¬kind.StoredFrom s.cluster.nextVersion object verb (s.cluster.find? kind key) stored)
  | (.ok stored, after) => ∃ key, s.Took after verb kind key object stored

variable {verb : Verb} {kind : Kind} {key : ObjectKey} {object stored : kind.Object}

theorem get_of_permits {s : Simulation} (permits : s.Permits .get kind)
    (found : s.cluster.find? kind key = some stored) :
    (handle (.get kind key.namespaceName key.name) s).1 = .ok stored := by
  obtain ⟨free, working⟩ := permits
  have got : s.cluster.get kind key = .ok stored :=
    (Cluster.get_eq_ok_iff stored).mpr ⟨working, found⟩
  simp only [handle, onObject, free, got, Except.map]

theorem allOrNothing_of_settles (s : Simulation)
    (act : Cluster → Except Error (kind.Object × Cluster))
    (settles : s.cluster.Settles verb kind object (act s.cluster))
    (asked : kind.SpecReadable object)
    (told : ∀ key existing, s.cluster.find? kind key = some existing →
      kind.SpecReadable existing) :
    s.AllOrNothing verb kind object (s.onGivenObject verb kind object act) := by
  simp only [onGivenObject, onObject]
  cases caught : (Trap.spring verb kind s.traps).failure with
  | some e =>
    -- The call does not reach the cluster.
    exact ⟨rfl, fun permits => by cases caught.symm.trans permits.1⟩
  | none =>
    cases outcome : act s.cluster with
    | error e =>
      rw [outcome] at settles
      refine ⟨rfl, fun permits key stored keyed made => ?_⟩
      obtain ⟨made, makes⟩ := Cluster.makes_of_storedFrom made
      exact settles permits.2 key made keyed makes
    | ok written =>
      obtain ⟨stored, after⟩ := written
      rw [outcome] at settles
      obtain ⟨working, key, keyed, makes, rfl⟩ := id settles
      have known := makes.recognized
      have wrote := s.cluster.wrote_write kind key known
      exact ⟨key, {
        permitted := ⟨caught, working⟩
        keyed
        made := Cluster.storedFrom_of_makes makes asked (told key)
        wrote
        got := fun permits => get_of_permits permits wrote.here
        told := fun readable held => by
          have storable := (makes.readable readable held).storable
          rw [known] at storable
          exact storable.read
        uids := fun behind => ⟨fun creates unset other place held found => by
          subst creates
          exact behind.fresh settles unset found, fun room => behind.settled room settles⟩ }⟩

/-- A write happens as a whole or not at all, and no verb writes what is another's to write. What the
    objects ask for must be readable, as it is in all that is read from documents. -/
theorem write_all_or_nothing (s : Simulation) (kind : Kind) (object : kind.Object)
    (asked : kind.SpecReadable object)
    (told : ∀ key existing, s.cluster.find? kind key = some existing →
      kind.SpecReadable existing) :
    s.AllOrNothing .create kind object (handle (.create kind object) s) ∧
      s.AllOrNothing .replace kind object (handle (.replace kind object) s) ∧
        s.AllOrNothing .replaceStatus kind object (handle (.replaceStatus kind object) s) :=
  ⟨s.allOrNothing_of_settles (·.create kind object) (s.cluster.settles_create object) asked told,
    s.allOrNothing_of_settles (·.replace kind object) (s.cluster.settles_replace object) asked told,
    s.allOrNothing_of_settles (·.replaceStatus kind object)
      (s.cluster.settles_replaceStatus object) asked told⟩

def oneReplica : Simulation where
  cluster := ({} : Cluster).insert .deployment {
    metadata := {
      name := "web"
      uid := some "a"
      resourceVersion := some "7"
      generation := some 3 }
    spec := some { replicas := some 1 }
    status := some { replicas := some 1 } }
  clock := default

theorem scaled_not_recreated :
    let scaled : Deployment := {
      metadata := { name := "web", uid := some "b" }
      spec := some { replicas := some 2 } }
    let stored : Deployment := {
      metadata := {
        name := "web"
        uid := some "a"
        resourceVersion := some "1"
        generation := some 4 }
      spec := some { replicas := some 2 }
      status := some { replicas := some 1 } }
    let created := handle (.create .deployment scaled) oneReplica
    let replaced := handle (.replace .deployment scaled) oneReplica
    created.1 = .error (Cluster.alreadyExists .deployment "web") ∧
      created.2.cluster = oneReplica.cluster ∧ replaced.1 = .ok stored ∧
        oneReplica.Took replaced.2 .replace .deployment ⟨none, "web"⟩ scaled stored := by
  intro scaled stored created replaced
  have readable (replicas : Int32) :
      DeploymentSpec.Readable { replicas := some replicas } := fun _ there => by cases there
  have asked : Kind.SpecReadable .deployment scaled := fun _ there => by
    cases there
    exact readable 2
  have told : ∀ key existing, oneReplica.cluster.find? .deployment key = some existing →
      Kind.SpecReadable .deployment existing := by
    intro key existing found spec there
    change Option.map _ (if ObjectKey.mk none "web" = key then some _ else none) = _ at found
    split at found
    · cases found
      cases there
      exact readable 1
    · cases found
  obtain ⟨creates, replaces, -⟩ :=
    write_all_or_nothing oneReplica .deployment scaled asked told
  obtain ⟨key, took⟩ : ∃ key, oneReplica.Took replaced.2 .replace .deployment key scaled stored :=
    replaces
  have here : key = ⟨none, "web"⟩ := Except.ok.inj took.keyed.symm
  exact ⟨rfl, creates.1, rfl, here ▸ took⟩

end Simulation

end AutoscalerOperator
