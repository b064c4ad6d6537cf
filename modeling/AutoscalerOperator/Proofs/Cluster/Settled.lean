import AutoscalerOperator.Proofs.Execution.Answers
import AutoscalerOperator.Proofs.Text.Numeral

namespace AutoscalerOperator

open Kubernetes

inductive Call.Puts : Call → (kind : Kind) → kind.Object → Prop
  | create {kind : Kind} {object : kind.Object} : Puts (.create kind object) kind object
  | replace {kind : Kind} {object : kind.Object} : Puts (.replace kind object) kind object
  | replaceStatus {kind : Kind} {object : kind.Object} :
    Puts (.replaceStatus kind object) kind object

theorem Call.Puts.writes? {c : Call} {kind : Kind} {object : kind.Object}
    (puts : c.Puts kind object) : c.writes? = some kind := by
  cases puts <;> rfl

namespace Cluster

def uid (number : UInt64) : String := "uid-" ++ toString number

theorem toString_injective {left right : UInt64} (same : toString left = toString right) :
    left = right :=
  UInt64.toNat_inj.mp (Text.toString_nat_injective same)

theorem uid_injective {left right : UInt64} (same : uid left = uid right) : left = right :=
  toString_injective ((String.append_right_inj _).mp same)

/-- What a write of an object makes of what is held under its key. -/
inductive Makes (cluster : Cluster) (kind : Kind) (object : kind.Object) :
    Verb → Option kind.Object → kind.Object → Prop
  | create : Makes cluster kind object .create none (cluster.created kind object)
  | replace {existing : kind.Object} (current : isCurrent kind existing object = true) :
    Makes cluster kind object .replace (some existing) (cluster.replaced kind existing object)
  | replaceStatus {existing : kind.Object} (current : isCurrent kind existing object = true) :
    Makes cluster kind object .replaceStatus (some existing)
      (cluster.restated kind existing object)

/-- Whether the outcome of a write is what the failures, the key of the object and what is held
    under it come to. -/
def Settles (cluster : Cluster) (verb : Verb) (kind : Kind) (object : kind.Object) :
    Except Error (kind.Object × Cluster) → Prop
  | .error _ => (verb, kind) ∉ cluster.failing → ∀ key stored, keyOf kind object = .ok key →
      ¬cluster.Makes kind object verb (cluster.find? kind key) stored
  | .ok (stored, after) => (verb, kind) ∉ cluster.failing ∧ ∃ key, keyOf kind object = .ok key ∧
      cluster.Makes kind object verb (cluster.find? kind key) stored ∧
        after = cluster.write kind key stored

variable {cluster after : Cluster} {verb : Verb} {kind : Kind} {key : ObjectKey}
  {object stored : kind.Object} {held : Option kind.Object}

theorem Makes.resourceVersion (makes : cluster.Makes kind object verb held stored) :
    (kind.metadata stored).resourceVersion = some cluster.version := by
  cases makes <;> simp [created, replaced, restated]

theorem Makes.recognized
    (makes : cluster.Makes kind object verb (cluster.find? kind key) stored) :
    kind.recognized stored = stored := by
  generalize there : cluster.find? kind key = held at makes
  cases makes with
  | create => exact recognized_created cluster object
  | replace => exact recognized_replaced cluster object (recognized_of_find? there)
  | replaceStatus => exact recognized_restated cluster _ object

theorem Makes.uid (makes : cluster.Makes kind object verb held stored) :
    (∃ existing, held = some existing ∧
        (kind.metadata stored).uid = (kind.metadata existing).uid) ∨
      (kind.metadata stored).uid = (kind.metadata object).uid ∨
        (kind.metadata stored).uid = some (uid cluster.nextVersion) := by
  cases makes with
  | create =>
    simp only [created, Kind.metadata_withMetadata]
    cases (kind.metadata object).uid with
    | none => exact .inr (.inr rfl)
    | some own => exact .inr (.inl rfl)
  | @replace existing =>
    simp only [replaced, Kind.metadata_withMetadata]
    cases kept : (kind.metadata existing).uid with
    | none => exact .inr (.inl rfl)
    | some own => exact .inl ⟨existing, rfl, kept.symm⟩
  | @replaceStatus existing =>
    simp only [restated, Kind.metadata_withMetadata]
    exact .inl ⟨existing, rfl, rfl⟩

theorem settles_of_unnamed {e refusal : Error} (unnamed : keyOf kind object = .error e) :
    cluster.Settles verb kind object (.error refusal) := by
  intro _ key _ keyed
  cases unnamed.symm.trans keyed

theorem settles_of_refused {refusal : Error} (keyed : keyOf kind object = .ok key)
    (refused : ∀ made, ¬cluster.Makes kind object verb (cluster.find? kind key) made) :
    cluster.Settles verb kind object (.error refusal) := by
  intro _ other made there
  cases keyed.symm.trans there
  exact refused made

theorem settles_create (cluster : Cluster) (object : kind.Object) :
    cluster.Settles .create kind object (cluster.create kind object) := by
  rw [create_eq]
  split
  case isTrue broken => exact fun working => absurd broken working
  case isFalse working =>
    cases keyed : keyOf kind object with
    | error e => exact settles_of_unnamed keyed
    | ok key =>
      cases found : cluster.find? kind key with
      | none =>
        simp only [found]
        exact ⟨working, key, keyed, found ▸ .create, rfl⟩
      | some existing =>
        simp only [found]
        refine settles_of_refused keyed fun made makes => ?_
        rw [found] at makes
        cases makes

theorem settles_update (cluster : Cluster) (object : kind.Object)
    {result : kind.Object → kind.Object}
    (makes : ∀ existing, isCurrent kind existing object = true →
      cluster.Makes kind object verb (some existing) (result existing))
    (current : ∀ held made, cluster.Makes kind object verb held made →
      ∃ existing, held = some existing ∧ isCurrent kind existing object = true) :
    cluster.Settles verb kind object (cluster.update verb kind object result) := by
  rw [update_eq]
  split
  case isTrue broken => exact fun working => absurd broken working
  case isFalse working =>
    cases keyed : keyOf kind object with
    | error e => exact settles_of_unnamed keyed
    | ok key =>
      cases found : cluster.find? kind key with
      | none =>
        simp only [found]
        refine settles_of_refused keyed fun made makes => ?_
        obtain ⟨existing, held, -⟩ := current _ _ makes
        cases found.symm.trans held
      | some existing =>
        simp only [found]
        split
        case isTrue seen => exact ⟨working, key, keyed, found ▸ makes existing seen, rfl⟩
        case isFalse stale =>
          refine settles_of_refused keyed fun made makes => ?_
          obtain ⟨other, held, seen⟩ := current _ _ makes
          cases found.symm.trans held
          exact stale seen

theorem settles_replace (cluster : Cluster) (object : kind.Object) :
    cluster.Settles .replace kind object (cluster.replace kind object) :=
  cluster.settles_update object (fun _ => .replace) fun _ _ made => by
    cases made with | replace current => exact ⟨_, rfl, current⟩

theorem settles_replaceStatus (cluster : Cluster) (object : kind.Object) :
    cluster.Settles .replaceStatus kind object (cluster.replaceStatus kind object) :=
  cluster.settles_update object (fun _ => .replaceStatus) fun _ _ made => by
    cases made with | replaceStatus current => exact ⟨_, rfl, current⟩

theorem keeps_of_answers {P : Cluster → Prop} {after : Cluster} {circumstances : Circumstances}
    {moves : Cluster → Cluster → Prop} {c : Call} {answer : c.Answer} (holds : P cluster)
    (kept : ∀ {verb kind} {object stored : kind.Object}, c.Puts kind object →
      cluster.Settles verb kind object (.ok (stored, after)) → P after)
    (answered : (world circumstances moves).answers c cluster answer after) : P after := by
  cases c with
  | get kind namespaceName name => exact answers_get_same answered ▸ holds
  | create kind object =>
    cases answer with
    | ok stored => exact kept .create (answered ▸ cluster.settles_create object)
    | error e => exact answered.1 ▸ holds
  | replace kind object =>
    cases answer with
    | ok stored => exact kept .replace (answered ▸ cluster.settles_replace object)
    | error e => exact answered.1 ▸ holds
  | replaceStatus kind object =>
    cases answer with
    | ok stored => exact kept .replaceStatus (answered ▸ cluster.settles_replaceStatus object)
    | error e => exact answered.1 ▸ holds
  | now | cancelled => exact answered.2 ▸ holds
  | ready | publish | sleep =>
    have same : after = cluster := answered
    exact same ▸ holds

end Cluster

end AutoscalerOperator
