import AutoscalerOperator.Proofs.Concurrency.Careful

namespace AutoscalerOperator

open Kubernetes

namespace Cluster

variable {kind : Kind}

theorem isCurrent_of_ne {stored object : kind.Object} {number : UInt64}
    (version : HasVersion kind object number)
    (different : (kind.metadata stored).resourceVersion ≠ (kind.metadata object).resourceVersion) :
    isCurrent kind stored object = false := by
  unfold isCurrent
  rw [version] at different ⊢
  exact beq_eq_false_iff_ne.mpr different

end Cluster

namespace Exchange

variable {σ : Type}

/-- Whether a call put an object under a key. -/
inductive Stores : Exchange σ → (kind : Kind) → ObjectKey → kind.Object → Prop
  | create {kind : Kind} {key : ObjectKey} {object stored : kind.Object} {before after : σ}
    (keyed : Cluster.keyOf kind object = .ok key) :
    Stores ⟨.create kind object, .ok stored, before, after⟩ kind key stored
  | update {exchange : Exchange σ} {verb : Verb} {kind : Kind} {key : ObjectKey}
    {object stored : kind.Object} (updates : exchange.Updates verb kind object (.ok stored))
    (keyed : Cluster.keyOf kind object = .ok key) : Stores exchange kind key stored

def Touches (exchange : Exchange σ) (kind : Kind) (key : ObjectKey) : Prop :=
  ∃ stored, exchange.Stores kind key stored

def Answered (circumstances : Circumstances) (exchange : Exchange Cluster) : Prop :=
  (Cluster.closedWorld circumstances).answers exchange.call exchange.before exchange.answer
    exchange.after

section

variable {circumstances : Circumstances} {exchange : Exchange Cluster} {verb : Verb} {kind : Kind}
  {key : ObjectKey} {object stored : kind.Object} {answer : Except Error kind.Object}

theorem Updates.yields (updates : exchange.Updates verb kind object answer)
    (answered : exchange.Answered circumstances) :
    ∃ result, exchange.before.Yields circumstances.failures
      (exchange.before.update verb kind object result) answer exchange.after := by
  cases updates <;> exact ⟨_, answered⟩

theorem Stores.settles (stores : exchange.Stores kind key stored)
    (answered : exchange.Answered circumstances) :
    ∃ verb object, Cluster.keyOf kind object = .ok key ∧
      exchange.before.Settles verb kind object (.ok (stored, exchange.after)) := by
  cases stores with
  | @create _ _ object _ before _ keyed =>
    exact ⟨.create, object, keyed, answered ▸ before.settles_create object⟩
  | @update _ _ _ _ object _ updates keyed =>
    cases updates with
    | @replace _ _ _ before =>
      exact ⟨.replace, object, keyed, answered ▸ before.settles_replace object⟩
    | @replaceStatus _ _ _ before =>
      exact ⟨.replaceStatus, object, keyed, answered ▸ before.settles_replaceStatus object⟩

theorem Stores.written (stores : exchange.Stores kind key stored)
    (answered : exchange.Answered circumstances) :
    Cluster.HasVersion kind stored exchange.before.nextVersion ∧ kind.recognized stored = stored ∧
      exchange.after = exchange.before.write kind key stored := by
  obtain ⟨verb, object, keyed, -, key', own, makes, after⟩ := stores.settles answered
  cases keyed.symm.trans own
  exact ⟨makes.resourceVersion, makes.recognized, after⟩

theorem Answered.same_or_stores (answered : exchange.Answered circumstances) :
    exchange.after = exchange.before ∨ ∃ kind key stored, exchange.Stores kind key stored := by
  obtain ⟨c, answer, before, after⟩ := exchange
  cases c with
  | get kind namespaceName name => exact .inl (Cluster.answers_get_same answered)
  | create kind object =>
    cases answer with
    | ok stored =>
      obtain ⟨key, keyed, -⟩ := Cluster.create_eq_ok answered
      exact .inr ⟨kind, key, stored, .create keyed⟩
    | error e => exact .inl answered.1
  | replace kind object =>
    cases answer with
    | ok stored =>
      obtain ⟨key, existing, keyed, -⟩ := Cluster.update_eq_ok answered
      exact .inr ⟨kind, key, stored, .update .replace keyed⟩
    | error e => exact .inl answered.1
  | replaceStatus kind object =>
    cases answer with
    | ok stored =>
      obtain ⟨key, existing, keyed, -⟩ := Cluster.update_eq_ok answered
      exact .inr ⟨kind, key, stored, .update .replaceStatus keyed⟩
    | error e => exact .inl answered.1
  | now | cancelled => exact .inl answered.2
  | ready | publish | sleep => exact .inl answered

theorem Shows.found (shows : exchange.Shows kind key stored)
    (answered : exchange.Answered circumstances) : exchange.after.find? kind key = some stored := by
  cases shows with
  | got =>
    obtain ⟨found, same⟩ := Cluster.answers_get_ok answered
    rw [same]
    exact found
  | @created _ _ object _ before after keyed =>
    obtain ⟨place, own, -, made, written⟩ := Cluster.create_eq_ok answered
    have keys : Cluster.keyOf kind stored = Cluster.keyOf kind object := by
      rw [made]
      simp [Cluster.keyOf, Cluster.created]
    cases (keyed.symm.trans keys).trans own
    rw [made]
    exact written ▸ Cluster.find?_created ..

theorem Answered.follows (answered : exchange.Answered circumstances)
    (room : exchange.before.HasRoom) :
    exchange.before.Follows exchange.after := by
  rcases answered.same_or_stores with same | ⟨kind, key, stored, stores⟩
  · rw [same]
    exact .refl _
  · obtain ⟨version, -, written⟩ := stores.written answered
    rw [written]
    exact Cluster.follows_write room version

theorem Answered.find?_of_untouched (answered : exchange.Answered circumstances)
    (untouched : ¬exchange.Touches kind key) :
    exchange.after.find? kind key = exchange.before.find? kind key := by
  rcases answered.same_or_stores with same | ⟨other, key', stored, stores⟩
  · rw [same]
  · rw [(stores.written answered).2.2]
    refine Cluster.find?_write_of_ne _ _ (Decidable.not_and_iff_or_not.mp ?_)
    rintro ⟨rfl, rfl⟩
    exact untouched ⟨stored, stores⟩

end

end Exchange

namespace Cluster

/-- How a cluster comes about that has given out all the versions that are in it, and none twice. -/
inductive Issued : Cluster → Prop
  | empty (failing : List (Verb × Kind)) (ready : Bool) : Issued { failing, ready }
  | insert {cluster : Cluster} {kind : Kind} {object : kind.Object} (issued : cluster.Issued)
    (room : cluster.HasRoom) (unversioned : (kind.metadata object).resourceVersion = none) :
    Issued (cluster.insert kind object)
  | write {cluster after : Cluster} (issued : cluster.Issued) (client : cluster.ClientWrite after) :
    Issued after

/-- The versions in a cluster are numbers that were given out, each to one object. -/
structure Numbered (cluster : Cluster) : Prop where
  given : ∀ kind key object, cluster.find? kind key = some object →
    ∃ number, number < cluster.nextVersion ∧ HasVersion kind object number
  distinct : ∀ kind key (object : kind.Object) other key' (object' : other.Object),
    cluster.find? kind key = some object → cluster.find? other key' = some object' →
    (kind.metadata object).resourceVersion = (other.metadata object').resourceVersion →
      kind = other ∧ key = key'

section

variable {cluster : Cluster} {kind other : Kind}

theorem numbered_of_empty (failing : List (Verb × Kind)) (ready : Bool) :
    Numbered { failing, ready } where
  given _ _ _ found := by cases found
  distinct _ _ _ _ _ _ found := by cases found

theorem Numbered.unused (numbered : cluster.Numbered) {object : kind.Object} {number : UInt64}
    (version : HasVersion kind object number) (fresh : cluster.nextVersion ≤ number)
    {key' : ObjectKey} {stored : other.Object} (found : cluster.find? other key' = some stored) :
    (other.metadata stored).resourceVersion ≠ (kind.metadata object).resourceVersion := by
  intro same
  obtain ⟨earlier, given, own⟩ := numbered.given other key' stored found
  obtain rfl := own.eq_of_same version same
  exact UInt64.lt_irrefl _ (UInt64.lt_of_lt_of_le given fresh)

theorem Numbered.write {object : kind.Object} (numbered : cluster.Numbered)
    (room : cluster.HasRoom) (key : ObjectKey)
    (version : HasVersion kind object cluster.nextVersion) :
    (cluster.write kind key object).Numbered where
  given other key' stored found := by
    rcases find?_write_cases cluster kind key object found with ⟨rfl, rfl, rfl⟩ | found
    · exact ⟨cluster.nextVersion, room.lt_next, version.recognized⟩
    · obtain ⟨number, given, own⟩ := numbered.given other key' stored found
      exact ⟨number, UInt64.lt_trans given room.lt_next, own⟩
  distinct left key₁ object₁ right key₂ object₂ found₁ found₂ same := by
    have fresh := version.recognized
    rcases find?_write_cases cluster kind key object found₁ with ⟨rfl, rfl, rfl⟩ | old₁ <;>
    rcases find?_write_cases cluster kind key object found₂ with ⟨rfl, rfl, rfl⟩ | old₂
    · exact ⟨rfl, rfl⟩
    · exact absurd same.symm (numbered.unused fresh (UInt64.le_refl _) old₂)
    · exact absurd same (numbered.unused fresh (UInt64.le_refl _) old₁)
    · exact numbered.distinct left key₁ object₁ right key₂ object₂ old₁ old₂ same

theorem Numbered.insert (numbered : cluster.Numbered) (room : cluster.HasRoom)
    {object : kind.Object} (unversioned : (kind.metadata object).resourceVersion = none) :
    (cluster.insert kind object).Numbered := by
  let stored := kind.withMetadata object
    { kind.metadata object with resourceVersion := some cluster.version }
  have version : HasVersion kind stored cluster.nextVersion := by
    simp [stored, HasVersion, Cluster.version]
  -- Apart from the count of writes, that is a write.
  have written := numbered.write room
    ⟨(kind.metadata object).namespaceName, (kind.metadata object).name.getD ""⟩ version
  unfold Cluster.insert
  simp only [unversioned]
  exact ⟨written.given, written.distinct⟩

theorem Issued.numbered (issued : cluster.Issued) : cluster.Numbered := by
  induction issued with
  | empty failing ready => exact numbered_of_empty failing ready
  | insert issued room unversioned ih => exact ih.insert room unversioned
  | write issued client ih =>
    obtain ⟨room, object, -, versioned⟩ := client.writes
    exact ih.write room _ versioned

theorem Numbered.answered {circumstances : Circumstances} {exchange : Exchange Cluster}
    (numbered : exchange.before.Numbered) (room : exchange.before.HasRoom)
    (answered : exchange.Answered circumstances) : exchange.after.Numbered := by
  rcases answered.same_or_stores with same | ⟨kind, key, stored, stores⟩
  · rwa [same]
  · obtain ⟨version, -, written⟩ := stores.written answered
    rw [written]
    exact numbered.write room key version

end

/-- The calls of any number of clients, in whatever order they come, while versions are left. -/
inductive Interleaved (circumstances : Circumstances) :
    Cluster → List (Exchange Cluster) → Cluster → Prop
  | none {start : Cluster} : Interleaved circumstances start [] start
  | call {exchange : Exchange Cluster} {trace : List (Exchange Cluster)} {final : Cluster}
    (room : exchange.before.HasRoom) (answered : exchange.Answered circumstances)
    (rest : Interleaved circumstances exchange.after trace final) :
    Interleaved circumstances exchange.before (exchange :: trace) final

namespace Interleaved

variable {circumstances : Circumstances} {start final : Cluster}
  {trace early late : List (Exchange Cluster)} {exchange : Exchange Cluster} {kind : Kind}
  {key : ObjectKey}

theorem split (calls : Interleaved circumstances start (early ++ exchange :: late) final) :
    Interleaved circumstances start early exchange.before ∧ exchange.before.HasRoom ∧
      exchange.Answered circumstances ∧ Interleaved circumstances exchange.after late final := by
  induction early generalizing start with
  | nil =>
    cases calls with
    | call room answered rest => exact ⟨.none, room, answered, rest⟩
  | cons first early ih =>
    cases calls with
    | call room answered rest =>
      obtain ⟨before, middle⟩ := ih rest
      exact ⟨.call room answered before, middle⟩

theorem follows (calls : Interleaved circumstances start trace final) : start.Follows final := by
  induction calls with
  | none => exact .refl _
  | call room answered _ ih => exact (answered.follows room).trans ih

theorem numbered (calls : Interleaved circumstances start trace final)
    (numbered : start.Numbered) : final.Numbered := by
  induction calls with
  | none => exact numbered
  | call room answered _ ih => exact ih (numbered.answered room answered)

theorem find?_of_untouched (calls : Interleaved circumstances start trace final)
    (untouched : ∀ exchange ∈ trace, ¬exchange.Touches kind key) :
    final.find? kind key = start.find? kind key := by
  induction calls with
  | none => rfl
  | call _ answered _ ih =>
    rw [ih fun exchange member => untouched exchange (List.mem_cons_of_mem _ member)]
    exact answered.find?_of_untouched (untouched _ List.mem_cons_self)

theorem find?_of_touched (calls : Interleaved circumstances start trace final)
    (member : exchange ∈ trace) (touches : exchange.Touches kind key) :
    ∃ object number, final.find? kind key = some object ∧ HasVersion kind object number ∧
      start.nextVersion ≤ number := by
  obtain ⟨early, late, rfl⟩ := List.append_of_mem member
  obtain ⟨before, room, answered, after⟩ := calls.split
  obtain ⟨stored, stores⟩ := touches
  obtain ⟨version, known, written⟩ := stores.written answered
  have counted := before.follows.counted
  rcases after.follows.kept kind key with kept | ⟨object, number, found, own, fresh⟩
  · rw [written, find?_write_self, known] at kept
    exact ⟨stored, _, kept, version, counted⟩
  · refine ⟨object, number, found, own, UInt64.le_trans counted (UInt64.le_trans ?_ fresh)⟩
    exact (answered.follows room).counted

end Interleaved

/-- What the clients of a cluster can count on, whatever they write to it. -/
structure Optimistic (start : Cluster) (trace : List (Exchange Cluster)) (final : Cluster) :
    Prop where
  numbered : final.Numbered
  stores : ∀ exchange ∈ trace, exchange.after = exchange.before ∨
    ∃ kind key stored, exchange.Stores kind key stored
  /-- What is stored gets a version that had not been given out by then, and that was nowhere in the
      cluster at any time before. -/
  fresh : ∀ early exchange late kind key stored, trace = early ++ exchange :: late →
    exchange.Stores kind key stored →
      exchange.after.find? kind key = some stored ∧
      HasVersion kind stored exchange.before.nextVersion ∧
      ∀ state ∈ start :: early.map (·.after), state.nextVersion ≤ exchange.before.nextVersion ∧
        ∀ other key' (object : other.Object), state.find? other key' = some object →
          (other.metadata object).resourceVersion ≠ (kind.metadata stored).resourceVersion
  /-- A write on what was seen goes through if nothing was stored there since. Otherwise it is too
      late, which shows in the error. -/
  decided : ∀ early shown between write late verb kind key seen object answer,
    trace = early ++ shown :: (between ++ write :: late) → shown.Shows kind key seen →
    write.Updates verb kind object answer → keyOf kind object = .ok key →
    (kind.metadata object).resourceVersion = (kind.metadata seen).resourceVersion →
    write.Answered { failures := fun _ => False } → (verb, kind) ∉ write.before.failing →
      ((∃ stored, answer = .ok stored) ↔ ∀ exchange ∈ between, ¬exchange.Touches kind key) ∧
      ∀ e, answer = .error e → e = conflict key.name ∧ e.isConflict = true ∧
        e.isAlreadyExists = false ∧ write.after = write.before

section

variable {circumstances : Circumstances} {start final : Cluster}
  {trace : List (Exchange Cluster)}

theorem Interleaved.earlier (calls : Interleaved circumstances start trace final)
    (numbered : start.Numbered) :
    ∀ state ∈ start :: trace.map (·.after), state.nextVersion ≤ final.nextVersion ∧
      state.Numbered := by
  induction calls with
  | none =>
    intro state member
    obtain rfl := List.mem_singleton.mp member
    exact ⟨UInt64.le_refl _, numbered⟩
  | @call exchange trace final room answered rest ih =>
    intro state member
    rcases List.mem_cons.mp member with rfl | member
    · exact ⟨(Interleaved.call room answered rest).follows.counted, numbered⟩
    · exact ih (numbered.answered room answered) state member

theorem Numbered.update_iff_untouched {circumstances : Circumstances} {verb : Verb} {kind : Kind}
    {key : ObjectKey} {read object : kind.Object} {answer : Except Error kind.Object}
    {result : kind.Object → kind.Object} {after : Cluster} (numbered : start.Numbered)
    (calls : Interleaved circumstances start trace final)
    (seen : start.find? kind key = some read) (keyed : keyOf kind object = .ok key)
    (same : (kind.metadata object).resourceVersion = (kind.metadata read).resourceVersion)
    (working : (verb, kind) ∉ final.failing)
    (yields : final.Yields (fun _ => False) (final.update verb kind object result) answer after) :
    ((∃ stored, answer = .ok stored) ↔ ∀ exchange ∈ trace, ¬exchange.Touches kind key) ∧
      ∀ e, answer = .error e → e = conflict key.name ∧ after = final := by
  obtain ⟨outcome, state⟩ := yields.of_calm fun _ => id
  by_cases touched : ∃ exchange ∈ trace, exchange.Touches kind key
  · obtain ⟨exchange, member, touches⟩ := touched
    obtain ⟨stored, number, found, version, fresh⟩ := calls.find?_of_touched member touches
    have newer : (kind.metadata stored).resourceVersion ≠ (kind.metadata object).resourceVersion :=
      fun equal => numbered.unused version fresh seen (equal.trans same).symm
    obtain ⟨earlier, -, own⟩ := numbered.given kind key read seen
    rw [update_of_stale result working keyed found (isCurrent_of_ne (same.trans own) newer)]
      at outcome state
    refine ⟨iff_of_false ?_ fun untouched => untouched exchange member touches, ?_⟩
    · rintro ⟨written, rfl⟩
      cases outcome
    · rintro e rfl
      cases outcome
      exact ⟨rfl, state⟩
  · have untouched : ∀ exchange ∈ trace, ¬exchange.Touches kind key :=
      fun exchange member touches => touched ⟨exchange, member, touches⟩
    have found := (calls.find?_of_untouched untouched).trans seen
    have written := update_of_current result working keyed found (isCurrent_of_resourceVersion same)
    rw [written] at outcome
    refine ⟨iff_of_true ⟨_, outcome⟩ untouched, ?_⟩
    rintro e rfl
    cases outcome

/-- However many clients read and write, versions are given out once, as long as there are any, and a
    client that writes on what it has seen overwrites nothing else. -/
theorem optimistic_concurrency (issued : start.Issued)
    (calls : Interleaved circumstances start trace final) : Optimistic start trace final where
  numbered := calls.numbered issued.numbered
  stores exchange member := by
    obtain ⟨early, late, rfl⟩ := List.append_of_mem member
    obtain ⟨-, -, answered, -⟩ := calls.split
    exact answered.same_or_stores
  fresh := by
    rintro early exchange late kind key stored rfl stores
    obtain ⟨before, -, answered, -⟩ := calls.split
    obtain ⟨version, known, written⟩ := stores.written answered
    refine ⟨by rw [written, find?_write_self, known], version, fun state member => ?_⟩
    obtain ⟨counted, numbered⟩ := before.earlier issued.numbered state member
    exact ⟨counted, fun other key' object found => numbered.unused version counted found⟩
  decided := by
    rintro early shown between write late verb kind key seen object answer rfl shows updates keyed
      same genuine working
    obtain ⟨before, room, answered, after⟩ := calls.split
    obtain ⟨since, -⟩ := after.split
    have numbered := (before.numbered issued.numbered).answered room answered
    obtain ⟨result, yields⟩ := updates.yields genuine
    obtain ⟨decided, refused⟩ := numbered.update_iff_untouched since (shows.found answered) keyed
      same working yields
    refine ⟨decided, fun e failed => ?_⟩
    obtain ⟨rfl, unchanged⟩ := refused e failed
    exact ⟨rfl, rfl, rfl, unchanged⟩

end

theorem second_of_two_writers :
    let fresh : ConfigMap := { metadata := { name := "shared" } }
    let start := ({} : Cluster).insert .configMap fresh
    let read : ConfigMap := { metadata := { name := "shared", resourceVersion := "1" } }
    let replaced : ConfigMap := start.replaced .configMap read read
    let final := start.write .configMap ⟨none, "shared"⟩ replaced
    let got : Exchange Cluster := ⟨.get .configMap none "shared", .ok read, start, start⟩
    let won : Exchange Cluster := ⟨.replace .configMap read, .ok replaced, start, final⟩
    let lost : Exchange Cluster :=
      ⟨.replaceStatus .configMap read, .error (conflict "shared"), final, final⟩
    start.Issued ∧ Interleaved { failures := fun _ => False } start [got, got, won, lost] final ∧
      Optimistic start [got, got, won, lost] final := by
  intro fresh start read replaced final got won lost
  have issued : start.Issued := .insert (.empty [] true) (by decide) rfl
  have shown : got.Answered { failures := fun _ => False } := rfl
  have first : won.Answered { failures := fun _ => False } := rfl
  have stored : final.find? .configMap ⟨none, "shared"⟩ = some replaced := rfl
  have keyed : keyOf .configMap read = .ok ⟨none, "shared"⟩ := rfl
  have stale : isCurrent .configMap replaced read = false := by decide
  have refused : final.replaceStatus .configMap read = .error (conflict "shared") := by
    rw [replaceStatus, update_of_stale _ (by decide) keyed stored stale]
  have second : lost.Answered { failures := fun _ => False } := ⟨rfl, .inl refused⟩
  have early : start.HasRoom := by decide
  have late : final.HasRoom := by decide
  have calls := Interleaved.call early shown (.call early shown (.call early first
    (.call late second .none)))
  exact ⟨issued, calls, optimistic_concurrency issued calls⟩

end Cluster

end AutoscalerOperator
