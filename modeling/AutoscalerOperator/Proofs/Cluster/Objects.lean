import AutoscalerOperator.Cluster.Basic

namespace AutoscalerOperator

open Kubernetes

namespace Kind

@[simp] theorem recognized_recognized (kind : Kind) (object : kind.Object) :
    kind.recognized (kind.recognized object) = kind.recognized object := by
  cases kind <;> first | rfl | exact ClusterOperator.recognized_recognized _

@[simp] theorem toJson_recognized (kind : Kind) (object : kind.Object) :
    toJson (kind.recognized object) = toJson object := by
  cases kind <;> first | rfl | exact ClusterOperator.toJson_recognized _

@[simp] theorem metadata_recognized (kind : Kind) (object : kind.Object) :
    kind.metadata (kind.recognized object) = kind.metadata object := by
  cases kind <;> rfl

@[simp] theorem recognized_withMetadata (kind : Kind) (object : kind.Object) (m : ObjectMeta) :
    kind.recognized (kind.withMetadata object m) = kind.withMetadata (kind.recognized object) m := by
  cases kind <;> rfl

@[simp] theorem recognized_withStatusOf (kind : Kind) (object other : kind.Object) :
    kind.recognized (kind.withStatusOf object other) =
      kind.withStatusOf object (kind.recognized other) := by
  cases kind <;> rfl

@[simp] theorem recognized_withoutStatus (kind : Kind) (object : kind.Object) :
    kind.recognized (kind.withoutStatus object) = kind.withoutStatus object := by
  cases kind <;> rfl

@[simp] theorem metadata_withMetadata (kind : Kind) (object : kind.Object) (m : ObjectMeta) :
    kind.metadata (kind.withMetadata object m) = m := by
  cases kind <;> rfl

@[simp] theorem metadata_withStatusOf (kind : Kind) (object other : kind.Object) :
    kind.metadata (kind.withStatusOf object other) = kind.metadata object := by
  cases kind <;> rfl

@[simp] theorem metadata_withoutStatus (kind : Kind) (object : kind.Object) :
    kind.metadata (kind.withoutStatus object) = kind.metadata object := by
  cases kind <;> rfl

end Kind

namespace Cluster

variable {cluster after : Cluster} {kind other : Kind} {key key' : ObjectKey}

/-- Whether the number of the version after the next one does not wrap around. -/
def HasRoom (cluster : Cluster) : Prop := cluster.nextVersion.toNat + 1 < UInt64.size

instance (cluster : Cluster) : Decidable cluster.HasRoom := inferInstanceAs (Decidable (_ < _))

theorem HasRoom.lt_next (room : cluster.HasRoom) :
    cluster.nextVersion < cluster.nextVersion + 1 := by
  rw [UInt64.lt_iff_toNat_lt, UInt64.toNat_add]
  exact (Nat.mod_eq_of_lt room).symm ▸ Nat.lt_succ_self _

theorem find?_congr (same : after.objects kind = cluster.objects kind) (key : ObjectKey) :
    after.find? kind key = cluster.find? kind key :=
  congrArg (Option.map kind.recognized) (congrFun same key)

@[simp] theorem find?_put_self (cluster : Cluster) (kind : Kind) (key : ObjectKey)
    (object : kind.Object) :
    (cluster.put kind key object).find? kind key = some (kind.recognized object) := by
  simp [put, find?]

theorem find?_put_of_kind_ne (cluster : Cluster) (object : kind.Object) (different : kind ≠ other) :
    (cluster.put kind key object).find? other key' = cluster.find? other key' := by
  simp [put, find?, different]

theorem find?_put_of_key_ne (cluster : Cluster) (object : kind.Object) (different : key ≠ key') :
    (cluster.put kind key object).find? other key' = cluster.find? other key' := by
  simp [put, find?, different]

@[simp] theorem find?_write_self (cluster : Cluster) (kind : Kind) (key : ObjectKey)
    (object : kind.Object) :
    (cluster.write kind key object).find? kind key = some (kind.recognized object) :=
  find?_put_self cluster kind key object

theorem recognized_of_find? {object : kind.Object} (found : cluster.find? kind key = some object) :
    kind.recognized object = object := by
  obtain ⟨stored, -, rfl⟩ := Option.map_eq_some_iff.mp found
  exact kind.recognized_recognized stored

theorem recognized_status {operator : ClusterOperator}
    (found : cluster.find? .clusterOperator key = some operator) :
    (operator.status.getD {}).recognized = operator.status.getD {} := by
  have known : operator.status.map ClusterOperatorStatus.recognized = operator.status :=
    congrArg ClusterOperator.status (recognized_of_find? found)
  cases held : operator.status with
  | none => rfl
  | some status =>
    rw [held] at known
    exact Option.some.inj known

@[simp] theorem recognized_created (cluster : Cluster) (object : kind.Object) :
    kind.recognized (cluster.created kind object) = cluster.created kind object := by
  simp [created]

theorem recognized_replaced (cluster : Cluster) (object : kind.Object) {stored : kind.Object}
    (known : kind.recognized stored = stored) :
    kind.recognized (cluster.replaced kind stored object) = cluster.replaced kind stored object := by
  simp [replaced, known]

@[simp] theorem recognized_restated (cluster : Cluster) (stored object : kind.Object) :
    kind.recognized (cluster.restated kind stored object) = cluster.restated kind stored object := by
  simp [restated]

theorem find?_created (cluster : Cluster) (kind : Kind) (key : ObjectKey) (object : kind.Object) :
    (cluster.write kind key (cluster.created kind object)).find? kind key =
      some (cluster.created kind object) := by
  rw [find?_write_self, recognized_created]

theorem find?_replaced (object : kind.Object) {stored : kind.Object}
    (found : cluster.find? kind key = some stored) :
    (cluster.write kind key (cluster.replaced kind stored object)).find? kind key =
      some (cluster.replaced kind stored object) := by
  rw [find?_write_self, recognized_replaced cluster object (recognized_of_find? found)]

theorem find?_restated (cluster : Cluster) (kind : Kind) (key : ObjectKey)
    (stored object : kind.Object) :
    (cluster.write kind key (cluster.restated kind stored object)).find? kind key =
      some (cluster.restated kind stored object) := by
  rw [find?_write_self, recognized_restated]

theorem find?_write_of_kind_ne (cluster : Cluster) (object : kind.Object)
    (different : kind ≠ other) :
    (cluster.write kind key object).find? other key' = cluster.find? other key' :=
  find?_put_of_kind_ne cluster object different

theorem find?_write_of_key_ne (cluster : Cluster) (object : kind.Object) (different : key ≠ key') :
    (cluster.write kind key object).find? other key' = cluster.find? other key' :=
  find?_put_of_key_ne cluster object different

theorem find?_write_of_ne (cluster : Cluster) (object : kind.Object)
    (different : kind ≠ other ∨ key ≠ key') :
    (cluster.write kind key object).find? other key' = cluster.find? other key' := by
  rcases different with kinds | keys
  · exact find?_write_of_kind_ne cluster object kinds
  · exact find?_write_of_key_ne cluster object keys

theorem find?_write_cases (cluster : Cluster) (kind : Kind) (key : ObjectKey)
    (written : kind.Object) {object : other.Object}
    (found : (cluster.write kind key written).find? other key' = some object) :
    (∃ same : kind = other, key = key' ∧ same ▸ kind.recognized written = object) ∨
      cluster.find? other key' = some object := by
  by_cases kinds : kind = other
  · subst kinds
    by_cases keys : key = key'
    · subst keys
      rw [find?_write_self] at found
      exact .inl ⟨rfl, rfl, Option.some.inj found⟩
    · rw [find?_write_of_key_ne cluster written keys] at found
      exact .inr found
  · rw [find?_write_of_kind_ne cluster written kinds] at found
    exact .inr found

theorem keyOf_eq_ok_iff (object : kind.Object) :
    keyOf kind object = .ok key ↔
      (kind.metadata object).namespaceName = key.namespaceName ∧
        (kind.metadata object).name = some key.name := by
  obtain ⟨space, name⟩ := key
  unfold keyOf
  cases named : (kind.metadata object).name <;> simp only [named] <;> simp

theorem get_eq (cluster : Cluster) (kind : Kind) (key : ObjectKey) :
    cluster.get kind key =
      if (.get, kind) ∈ cluster.failing then .error (injectedFailure .get kind)
      else match cluster.find? kind key with
        | some object => .ok object
        | none => .error (notFound kind key.name) := by
  unfold get checkFailure
  split
  · rfl
  · cases cluster.find? kind key <;> rfl

theorem create_eq (cluster : Cluster) (object : kind.Object) :
    cluster.create kind object =
      if (.create, kind) ∈ cluster.failing then .error (injectedFailure .create kind)
      else match keyOf kind object with
        | .error e => .error e
        | .ok key =>
          match cluster.find? kind key with
          | some _ => .error (alreadyExists kind key.name)
          | none =>
            .ok (cluster.created kind object,
              cluster.write kind key (cluster.created kind object)) := by
  unfold create checkFailure
  split
  · rfl
  · cases keyOf kind object with
    | error e => rfl
    | ok key =>
      simp only [bind, Except.bind]
      cases cluster.find? kind key <;> rfl

theorem update_eq (cluster : Cluster) (verb : Verb) (object : kind.Object)
    (result : kind.Object → kind.Object) :
    cluster.update verb kind object result =
      if (verb, kind) ∈ cluster.failing then .error (injectedFailure verb kind)
      else match keyOf kind object with
        | .error e => .error e
        | .ok key =>
          match cluster.find? kind key with
          | none => .error (notFound kind key.name)
          | some stored =>
            if isCurrent kind stored object then
              .ok (result stored, cluster.write kind key (result stored))
            else .error (conflict key.name) := by
  unfold update checkFailure
  split
  · rfl
  · cases keyOf kind object with
    | error e => rfl
    | ok key =>
      simp only [bind, Except.bind]
      cases cluster.find? kind key with
      | none => rfl
      | some stored => cases isCurrent kind stored object <;> rfl

theorem get_eq_ok_iff (object : kind.Object) :
    cluster.get kind key = .ok object ↔
      (.get, kind) ∉ cluster.failing ∧ cluster.find? kind key = some object := by
  rw [get_eq]
  split
  · simp_all
  · cases found : cluster.find? kind key <;> simp_all

theorem get_eq_error {e : Error} (failed : cluster.get kind key = .error e) :
    (.get, kind) ∈ cluster.failing ∧ e = injectedFailure .get kind ∨
      (.get, kind) ∉ cluster.failing ∧ cluster.find? kind key = none ∧
        e = notFound kind key.name := by
  rw [get_eq] at failed
  split at failed
  case isTrue broken => exact .inl ⟨broken, (Except.error.inj failed).symm⟩
  case isFalse working =>
    cases found : cluster.find? kind key with
    | some object => simp only [found] at failed; cases failed
    | none =>
      simp only [found] at failed
      exact .inr ⟨working, rfl, (Except.error.inj failed).symm⟩

theorem get_notFound {e : Error} (refused : cluster.get kind key = .error e)
    (absent : e.isNotFound = true) :
    (.get, kind) ∉ cluster.failing ∧ cluster.find? kind key = none := by
  rcases get_eq_error refused with ⟨-, rfl⟩ | ⟨working, missing, -⟩
  · cases absent
  · exact ⟨working, missing⟩

theorem create_eq_ok {object stored : kind.Object}
    (made : cluster.create kind object = .ok (stored, after)) :
    ∃ key, keyOf kind object = .ok key ∧ cluster.find? kind key = none ∧
      stored = cluster.created kind object ∧
        after = cluster.write kind key (cluster.created kind object) := by
  rw [create_eq] at made
  split at made
  · cases made
  · cases keyed : keyOf kind object with
    | error e => simp only [keyed] at made; cases made
    | ok key =>
      cases found : cluster.find? kind key with
      | some existing => simp only [keyed, found] at made; cases made
      | none =>
        simp only [keyed, found] at made
        cases made
        exact ⟨key, rfl, found, rfl, rfl⟩

theorem find?_of_create {object stored : kind.Object} {existing : other.Object}
    (made : cluster.create kind object = .ok (stored, after))
    (found : cluster.find? other key = some existing) : after.find? other key = some existing := by
  obtain ⟨place, -, missing, -, rfl⟩ := create_eq_ok made
  by_cases kinds : kind = other
  · subst kinds
    have keys : place ≠ key := by
      rintro rfl
      cases missing.symm.trans found
    rw [find?_write_of_key_ne _ _ keys, found]
  · rw [find?_write_of_kind_ne _ _ kinds, found]

theorem update_eq_ok {verb : Verb} {object stored : kind.Object}
    {result : kind.Object → kind.Object}
    (written : cluster.update verb kind object result = .ok (stored, after)) :
    ∃ key existing, keyOf kind object = .ok key ∧ cluster.find? kind key = some existing ∧
      isCurrent kind existing object = true ∧ stored = result existing ∧
        after = cluster.write kind key (result existing) := by
  rw [update_eq] at written
  split at written
  · cases written
  · cases keyed : keyOf kind object with
    | error e => simp only [keyed] at written; cases written
    | ok key =>
      cases found : cluster.find? kind key with
      | none => simp only [keyed, found] at written; cases written
      | some existing =>
        simp only [keyed, found] at written
        split at written
        · cases written
          exact ⟨key, existing, rfl, found, by assumption, rfl, rfl⟩
        · cases written

theorem isCurrent_of_resourceVersion {stored object : kind.Object}
    (same : (kind.metadata object).resourceVersion = (kind.metadata stored).resourceVersion) :
    isCurrent kind stored object = true := by
  unfold isCurrent
  rw [same]
  cases (kind.metadata stored).resourceVersion <;> simp

theorem create_of_missing {object : kind.Object} (working : (.create, kind) ∉ cluster.failing)
    (keyed : keyOf kind object = .ok key) (missing : cluster.find? kind key = none) :
    cluster.create kind object = .ok (cluster.created kind object,
      cluster.write kind key (cluster.created kind object)) := by
  rw [create_eq, if_neg working]
  simp only [keyed, missing]

theorem update_of_current {verb : Verb} {object stored : kind.Object}
    (result : kind.Object → kind.Object) (working : (verb, kind) ∉ cluster.failing)
    (keyed : keyOf kind object = .ok key) (found : cluster.find? kind key = some stored)
    (current : isCurrent kind stored object = true) :
    cluster.update verb kind object result =
      .ok (result stored, cluster.write kind key (result stored)) := by
  rw [update_eq, if_neg working]
  simp only [keyed, found, current, if_true]

theorem update_of_stale {verb : Verb} {object stored : kind.Object}
    (result : kind.Object → kind.Object) (working : (verb, kind) ∉ cluster.failing)
    (keyed : keyOf kind object = .ok key) (found : cluster.find? kind key = some stored)
    (stale : isCurrent kind stored object = false) :
    cluster.update verb kind object result = .error (conflict key.name) := by
  rw [update_eq, if_neg working]
  simp only [keyed, found, stale]
  rfl

theorem update_eq_error {verb : Verb} {object : kind.Object} {result : kind.Object → kind.Object}
    {e : Error} (keyed : keyOf kind object = .ok key)
    (failed : cluster.update verb kind object result = .error e) :
    (verb, kind) ∈ cluster.failing ∨ e = notFound kind key.name ∨ e = conflict key.name := by
  rw [update_eq] at failed
  split at failed
  · exact .inl (by assumption)
  · cases found : cluster.find? kind key with
    | none => simp only [keyed, found] at failed; exact .inr (.inl (Except.error.inj failed).symm)
    | some existing =>
      simp only [keyed, found] at failed
      split at failed
      · cases failed
      · exact .inr (.inr (Except.error.inj failed).symm)

end Cluster

end AutoscalerOperator
