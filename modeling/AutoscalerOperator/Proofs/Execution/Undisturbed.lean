import AutoscalerOperator.Proofs.Execution.Simulated

namespace AutoscalerOperator

theorem Program.run_ask {α σ : Type} {handler : Handler σ} {c : Call} {next : c.Answer → Program α}
    {state after : σ} {answer : c.Answer} (handled : handler c state = (answer, after)) :
    (ask c >>= next).run handler state = (next answer).run handler after := by
  change (next (handler c state).1).run handler (handler c state).2 = _
  rw [handled]

namespace Trap

variable {verb : Verb} {kind : Kind} {traps : List Trap}

theorem spring_elsewhere (elsewhere : ∀ trap ∈ traps, trap.kind ≠ kind) :
    spring verb kind traps = { traps } := by
  induction traps with
  | nil => rfl
  | cons trap rest ih =>
    have passed : trap.look verb kind = (trap, none) :=
      if_pos fun same => elsewhere trap List.mem_cons_self (congrArg Prod.snd same)
    rw [spring, passed, ih fun other member => elsewhere other (List.mem_cons_of_mem _ member)]

theorem cancel_mem_of_spring {token : Nat} (cancelled : token ∈ (spring verb kind traps).cancelled) :
    .cancel token ∈ traps.map (·.effect) := by
  induction traps with
  | nil => cases cancelled
  | cons trap rest ih =>
    unfold spring at cancelled
    split at cancelled
    · cases cancelled
    · rename_i caught
      have effect := look_caught (congrArg Prod.snd caught)
      rcases List.mem_cons.mp cancelled with rfl | later
      · exact List.mem_cons.mpr (.inl effect.symm)
      · exact List.mem_cons_of_mem _ (ih later)
    · exact List.mem_cons_of_mem _ (ih cancelled)

end Trap

namespace Simulation

/-- Whether the operator has not been told to stop, and no call on objects of a kind fails or has a
    side effect. -/
structure Undisturbed (s : Simulation) (kind : Kind) : Prop where
  running : s.isCancelled = false
  free : ∀ trap ∈ s.traps, trap.kind ≠ kind
  working : ∀ verb, (verb, kind) ∉ s.cluster.failing

def StaysRunning (s : Simulation) : Prop := .cancel s.token ∉ s.traps.map (·.effect)

/-- A simulation after calls that led to a cluster. -/
def after (s : Simulation) (calls : List LoggedCall) (cluster : Cluster) : Simulation :=
  { s with cluster, log := s.log ++ calls }

theorem after_after (s : Simulation) (first second : List LoggedCall) (between cluster : Cluster) :
    (s.after first between).after second cluster = s.after (first ++ second) cluster := by
  simp only [after, List.append_assoc]

section

variable {s : Simulation} {kind : Kind} {key : ObjectKey}

theorem Undisturbed.of_same {t : Simulation} (undisturbed : s.Undisturbed kind)
    (cancelled : t.isCancelled = s.isCancelled)
    (traps : t.traps.map (·.kind) = s.traps.map (·.kind))
    (failing : t.cluster.failing = s.cluster.failing) : t.Undisturbed kind where
  running := cancelled.trans undisturbed.running
  free trap member := by
    have among : trap.kind ∈ s.traps.map (·.kind) := traps ▸ List.mem_map_of_mem member
    obtain ⟨original, there, same⟩ := List.mem_map.mp among
    exact same ▸ undisturbed.free original there
  working verb := failing ▸ undisturbed.working verb

theorem Undisturbed.after (undisturbed : s.Undisturbed kind) (calls : List LoggedCall)
    {cluster : Cluster} (failing : cluster.failing = s.cluster.failing) :
    (s.after calls cluster).Undisturbed kind :=
  undisturbed.of_same rfl rfl failing

theorem cancelled_undisturbed (undisturbed : s.Undisturbed kind) :
    handle .cancelled s = (false, s) :=
  congrArg (·, s) undisturbed.running

theorem onObject_undisturbed {α : Type} (undisturbed : s.Undisturbed kind) (verb : Verb)
    (namespaceName name : Option String) (act : Cluster → Except Error (α × Cluster)) :
    s.onObject verb kind namespaceName name act =
      match act s.cluster with
      | .ok (value, cluster) => (.ok value, s.after [⟨verb, kind, namespaceName, name, none⟩] cluster)
      | .error e => (.error e, s.after [⟨verb, kind, namespaceName, name, some e⟩] s.cluster) := by
  rw [onObject, Trap.spring_elsewhere undisturbed.free]
  rfl

theorem get_undisturbed {object : kind.Object} (undisturbed : s.Undisturbed kind)
    (stored : s.cluster.find? kind key = some object) :
    handle (.get kind key.namespaceName key.name) s = (.ok object,
      s.after [⟨.get, kind, key.namespaceName, some key.name, none⟩] s.cluster) := by
  have got := (Cluster.get_eq_ok_iff object).mpr ⟨undisturbed.working .get, stored⟩
  rw [handle, onObject_undisturbed undisturbed, got]
  rfl

theorem get_undisturbed_missing (undisturbed : s.Undisturbed kind)
    (missing : s.cluster.find? kind key = none) :
    let refusal := Cluster.notFound kind key.name
    handle (.get kind key.namespaceName key.name) s = (.error refusal,
      s.after [⟨.get, kind, key.namespaceName, some key.name, some refusal⟩] s.cluster) := by
  have got : s.cluster.get kind key = .error (Cluster.notFound kind key.name) := by
    rw [Cluster.get_eq, if_neg (undisturbed.working .get)]
    simp only [missing]
  rw [handle, onObject_undisturbed undisturbed, got]
  rfl

theorem create_undisturbed {object : kind.Object} (undisturbed : s.Undisturbed kind)
    (keyed : Cluster.keyOf kind object = .ok key) (missing : s.cluster.find? kind key = none) :
    let created := s.cluster.created kind object
    handle (.create kind object) s = (.ok created,
      s.after [⟨.create, kind, key.namespaceName, some key.name, none⟩]
        (s.cluster.write kind key created)) := by
  obtain ⟨space, name⟩ := (Cluster.keyOf_eq_ok_iff object).mp keyed
  rw [handle, onGivenObject, onObject_undisturbed undisturbed,
    Cluster.create_of_missing (undisturbed.working .create) keyed missing, space, name]

theorem replaceStatus_undisturbed {object stored : kind.Object} (undisturbed : s.Undisturbed kind)
    (keyed : Cluster.keyOf kind object = .ok key) (found : s.cluster.find? kind key = some stored)
    (current : Cluster.isCurrent kind stored object = true) :
    let restated := s.cluster.restated kind stored object
    handle (.replaceStatus kind object) s = (.ok restated,
      s.after [⟨.replaceStatus, kind, key.namespaceName, some key.name, none⟩]
        (s.cluster.write kind key restated)) := by
  obtain ⟨space, name⟩ := (Cluster.keyOf_eq_ok_iff object).mp keyed
  rw [handle, onGivenObject, onObject_undisturbed undisturbed, Cluster.replaceStatus,
    Cluster.update_of_current _ (undisturbed.working .replaceStatus) keyed found current, space,
    name]

theorem isCancelled_onObject {α : Type} (stays : s.StaysRunning) (verb : Verb) (kind : Kind)
    (namespaceName name : Option String) (act : Cluster → Except Error (α × Cluster)) :
    (s.onObject verb kind namespaceName name act).2.isCancelled = s.isCancelled := by
  have spared : s.token ∉ (Trap.spring verb kind s.traps).cancelled := fun cancelled =>
    stays (Trap.cancel_mem_of_spring cancelled)
  have same : ((Trap.spring verb kind s.traps).cancelled ++ s.cancelledTokens).contains s.token =
      s.cancelledTokens.contains s.token := by
    simp [spared]
  unfold onObject
  dsimp only
  split
  · exact same
  · split <;> exact same

theorem read_keeps (stays : s.StaysRunning) (kind : Kind) (namespaceName : Option String)
    (name : String) :
    let after := (handle (.get kind namespaceName name) s).2
    after.cluster = s.cluster ∧ after.clock = s.clock ∧ after.isCancelled = s.isCancelled ∧
      after.traps.map (·.kind) = s.traps.map (·.kind) ∧ after.StaysRunning := by
  intro after
  have running : after.isCancelled = s.isCancelled := isCancelled_onObject stays ..
  have kinds := Trap.kinds_spring .get kind s.traps
  have effects := Trap.effects_spring .get kind s.traps
  have still : .cancel s.token ∉ (Trap.spring .get kind s.traps).traps.map (·.effect) :=
    effects ▸ stays
  have parts : after.cluster = s.cluster ∧ after.clock = s.clock ∧ after.token = s.token ∧
      after.traps = (Trap.spring .get kind s.traps).traps := by
    simp only [after, handle, onObject]
    cases (Trap.spring .get kind s.traps).failure with
    | some e => exact ⟨rfl, rfl, rfl, rfl⟩
    | none => cases s.cluster.get kind ⟨namespaceName, name⟩ <;> exact ⟨rfl, rfl, rfl, rfl⟩
  obtain ⟨cluster, clock, token, traps⟩ := parts
  rw [StaysRunning, token, traps]
  exact ⟨cluster, clock, running, kinds, still⟩

theorem Undisturbed.read (undisturbed : s.Undisturbed kind) (stays : s.StaysRunning) (other : Kind)
    (namespaceName : Option String) (name : String) :
    (handle (.get other namespaceName name) s).2.Undisturbed kind := by
  obtain ⟨cluster, -, cancelled, kinds, -⟩ := read_keeps stays other namespaceName name
  exact undisturbed.of_same cancelled kinds (congrArg Cluster.failing cluster)

end

end Simulation

end AutoscalerOperator
