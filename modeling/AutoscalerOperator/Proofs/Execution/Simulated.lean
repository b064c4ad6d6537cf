import AutoscalerOperator.Proofs.Execution.Answers

namespace AutoscalerOperator

namespace Trap

theorem look_caught {trap : Trap} {verb : Verb} {kind : Kind} {effect : TrapEffect}
    (caught : (trap.look verb kind).2 = some effect) : trap.effect = effect := by
  unfold look at caught
  split at caught
  · cases caught
  · split at caught
    · cases caught
    · split at caught
      · exact Option.some.inj caught
      · cases caught

theorem map_spring {α : Type} {view : Trap → α}
    (skipped : ∀ (trap : Trap) n, view { trap with skip := n } = view trap)
    (caught : ∀ (trap : Trap) n, view { trap with times := n } = view trap) (verb : Verb)
    (kind : Kind) (traps : List Trap) :
    (spring verb kind traps).traps.map view = traps.map view := by
  have looked (trap : Trap) : view (trap.look verb kind).1 = view trap := by
    unfold look
    split
    · rfl
    · split
      · exact skipped trap _
      · split
        · exact caught trap _
        · rfl
  induction traps with
  | nil => rfl
  | cons trap rest ih =>
    have kept := looked trap
    unfold spring
    split <;> simp_all

theorem effects_spring (verb : Verb) (kind : Kind) (traps : List Trap) :
    (spring verb kind traps).traps.map (·.effect) = traps.map (·.effect) :=
  map_spring (fun _ _ => rfl) (fun _ _ => rfl) verb kind traps

theorem kinds_spring (verb : Verb) (kind : Kind) (traps : List Trap) :
    (spring verb kind traps).traps.map (·.kind) = traps.map (·.kind) :=
  map_spring (fun _ _ => rfl) (fun _ _ => rfl) verb kind traps

theorem spring_failure {verb : Verb} {kind : Kind} {traps : List Trap} {e : Error}
    (failed : (spring verb kind traps).failure = some e) :
    .fail e ∈ traps.map (·.effect) := by
  induction traps with
  | nil => cases failed
  | cons trap rest ih =>
    unfold spring at failed
    split at failed
    · rename_i caught
      have effect := look_caught (congrArg Prod.snd caught)
      cases failed
      exact List.mem_cons.mpr (.inl effect.symm)
    · exact List.mem_cons_of_mem _ (ih failed)
    · exact List.mem_cons_of_mem _ (ih failed)

end Trap

namespace Simulation

/-- The circumstances that a simulation makes for a program: its traps fail calls, and its clock
    stands still. -/
def circumstances (s : Simulation) : Circumstances where
  failures e := .fail e ∈ s.traps.map (·.effect)
  clock t := t = s.clock

def Like (s t : Simulation) : Prop :=
  t.traps.map (·.effect) = s.traps.map (·.effect) ∧ t.clock = s.clock

theorem circumstances_like {s t : Simulation} (like : s.Like t) :
    t.circumstances = s.circumstances := by
  obtain ⟨traps, clock⟩ := like
  simp only [circumstances, traps, clock]

theorem calm_of_free {s : Simulation} (free : s.traps = []) (e : Error) :
    ¬s.circumstances.failures e := by
  simp [circumstances, free]

theorem untroubled {s : Simulation} (free : s.traps = []) (working : s.cluster.failing = []) :
    s.cluster.Untroubled s.circumstances :=
  ⟨calm_of_free free, working⟩

theorem onObject_yields {α : Type} (s : Simulation) (verb : Verb) (kind : Kind)
    (namespaceName name : Option String) (act : Cluster → Except Error (α × Cluster)) :
    let outcome := s.onObject verb kind namespaceName name act
    s.Like outcome.2 ∧
      s.cluster.Yields s.circumstances.failures (act s.cluster) outcome.1 outcome.2.cluster := by
  have kept := Trap.effects_spring verb kind s.traps
  simp only [onObject]
  cases caught : (Trap.spring verb kind s.traps).failure with
  | some e => exact ⟨⟨kept, rfl⟩, rfl, .inr (Trap.spring_failure caught)⟩
  | none =>
    cases result : act s.cluster with
    | error e => exact ⟨⟨kept, rfl⟩, rfl, .inl rfl⟩
    | ok outcome => exact ⟨⟨kept, rfl⟩, rfl⟩

theorem handle_answers (c : Call) (s : Simulation) :
    s.Like (handle c s).2 ∧
      Cluster.Answers s.circumstances c s.cluster (handle c s).1 (handle c s).2.cluster := by
  cases c with
  | get kind namespaceName name => exact onObject_yields ..
  | create kind object => exact onObject_yields ..
  | replace kind object => exact onObject_yields ..
  | replaceStatus kind object => exact onObject_yields ..
  | ready =>
    unfold handle
    dsimp only
    split <;> exact ⟨⟨rfl, rfl⟩, rfl⟩
  | publish event =>
    unfold handle
    dsimp only
    split <;> exact ⟨⟨rfl, rfl⟩, rfl⟩
  | now => exact ⟨⟨rfl, rfl⟩, rfl, rfl⟩
  | cancelled => exact ⟨⟨rfl, rfl⟩, trivial, rfl⟩
  | sleep milliseconds => exact ⟨⟨rfl, rfl⟩, rfl⟩

def exchanges {α : Type} (s : Simulation) (program : Program α) : List (Exchange Cluster) :=
  program.exchanges handle (·.cluster) s

theorem runs_like {α : Type} (s : Simulation) (program : Program α) :
    program.Runs (Cluster.closedWorld s.circumstances) s.cluster (s.exchanges program)
        (program.run handle s).1 (program.run handle s).2.cluster ∧
      s.Like (program.run handle s).2 := by
  refine Program.runs_exchanges s.Like (fun c t like => ?_) program s ⟨rfl, rfl⟩
  have answered := handle_answers c t
  rw [circumstances_like like] at answered
  exact ⟨⟨answered.1.1.trans like.1, answered.1.2.trans like.2⟩, answered.2⟩

theorem runs {α : Type} (s : Simulation) (program : Program α) :
    program.Runs (Cluster.closedWorld s.circumstances) s.cluster (s.exchanges program)
      (program.run handle s).1 (program.run handle s).2.cluster :=
  (s.runs_like program).1

theorem traps_run {α : Type} {s : Simulation} (free : s.traps = []) (program : Program α) :
    (program.run handle s).2.traps = [] := by
  obtain ⟨effects, -⟩ := (s.runs_like program).2
  rw [free] at effects
  exact List.map_eq_nil_iff.mp effects

theorem log_onObject {α : Type} (s : Simulation) (verb : Verb) (kind : Kind)
    (namespaceName name : Option String) (act : Cluster → Except Error (α × Cluster)) :
    let outcome := s.onObject verb kind namespaceName name act
    outcome.2.log =
        s.log ++ [⟨verb, kind, namespaceName, name, Exchange.failureOf outcome.1⟩] ∧
      outcome.2.events = s.events := by
  simp only [onObject]
  cases (Trap.spring verb kind s.traps).failure with
  | some e => exact ⟨rfl, rfl⟩
  | none =>
    cases act s.cluster with
    | error e => exact ⟨rfl, rfl⟩
    | ok outcome => exact ⟨rfl, rfl⟩

theorem log_onGivenObject (s : Simulation) (verb : Verb) (kind : Kind) (object : kind.Object)
    (act : Cluster → Except Error (kind.Object × Cluster)) :
    let outcome := s.onGivenObject verb kind object act
    outcome.2.log = s.log ++ [⟨verb, kind, (kind.metadata object).namespaceName,
        (kind.metadata object).name, Exchange.failureOf outcome.1⟩] ∧
      outcome.2.events = s.events :=
  log_onObject s verb kind _ _ act

theorem records_handle (c : Call) (s : Simulation) :
    let exchange : Exchange Cluster := ⟨c, (handle c s).1, s.cluster, (handle c s).2.cluster⟩
    (handle c s).2.log = s.log ++ exchange.logged?.toList ∧
      (handle c s).2.events = s.events ++ exchange.published?.toList := by
  have none (events : List Event) : events = events ++ [] := (List.append_nil events).symm
  cases c with
  | get kind namespaceName name =>
    have ⟨logged, kept⟩ := log_onObject s .get kind namespaceName (some name) fun cluster =>
      (cluster.get kind ⟨namespaceName, name⟩).map (·, cluster)
    exact ⟨logged, kept.trans (none _)⟩
  | create kind object =>
    have ⟨logged, kept⟩ := log_onGivenObject s .create kind object (·.create kind object)
    exact ⟨logged, kept.trans (none _)⟩
  | replace kind object =>
    have ⟨logged, kept⟩ := log_onGivenObject s .replace kind object (·.replace kind object)
    exact ⟨logged, kept.trans (none _)⟩
  | replaceStatus kind object =>
    have ⟨logged, kept⟩ :=
      log_onGivenObject s .replaceStatus kind object (·.replaceStatus kind object)
    exact ⟨logged, kept.trans (none _)⟩
  | ready =>
    simp only [handle]
    split <;> exact ⟨(List.append_nil _).symm, (List.append_nil _).symm⟩
  | publish event =>
    simp only [handle]
    split <;> exact ⟨(List.append_nil _).symm, by simp [Exchange.published?]⟩
  | now | cancelled | sleep => exact ⟨(List.append_nil _).symm, (List.append_nil _).symm⟩

theorem records_run {α : Type} (s : Simulation) (program : Program α) :
    (program.run handle s).2.log = s.log ++ (s.exchanges program).flatMap (·.logged?.toList) ∧
      (program.run handle s).2.events =
        s.events ++ (s.exchanges program).flatMap (·.published?.toList) :=
  ⟨Program.record_run (fun c t => (records_handle c t).1) program s,
    Program.record_run (fun c t => (records_handle c t).2) program s⟩

theorem records_of_silent {α : Type} (s : Simulation) (program : Program α)
    (silent : ∀ exchange ∈ s.exchanges program, exchange.call.Silent) :
    (program.run handle s).2.events = s.events ∧
      ∃ calls, (program.run handle s).2.log = s.log ++ calls ∧ ∀ call ∈ calls, call.verb = .get := by
  obtain ⟨log, events⟩ := s.records_run program
  have untold : (s.exchanges program).flatMap (·.published?.toList) = [] := by
    refine List.flatMap_eq_nil_iff.mpr fun exchange member => ?_
    rw [Exchange.published?_of_silent (silent exchange member)]
    rfl
  refine ⟨by rw [events, untold, List.append_nil], _, log, ?_⟩
  intro call member
  obtain ⟨exchange, member, logged⟩ := List.mem_flatMap.mp member
  exact Exchange.verb_of_unwritten (silent exchange member).writes? (Option.mem_toList.mp logged)

theorem records_of_reads {α : Type} (s : Simulation) (program : Program α)
    (reads : ∀ exchange ∈ s.exchanges program, exchange.call.Reads) :
    (program.run handle s).2.events = s.events ∧
      ∃ calls, (program.run handle s).2.log = s.log ++ calls ∧ ∀ call ∈ calls, call.verb = .get :=
  s.records_of_silent program fun exchange member => (reads exchange member).silent

/-- The circumstances that a simulation without traps makes: nothing fails but what the cluster
    itself refuses, and neither the clock nor the token changes. -/
def steadily (s : Simulation) : Circumstances where
  failures _ := False
  clock t := t = s.clock
  stopped told := told = s.isCancelled

def Steady (s t : Simulation) : Prop :=
  t.traps = [] ∧ t.clock = s.clock ∧ t.isCancelled = s.isCancelled

theorem onObject_steadily {α : Type} {s t : Simulation} (steady : s.Steady t) (verb : Verb)
    (kind : Kind) (namespaceName name : Option String)
    (act : Cluster → Except Error (α × Cluster)) :
    let outcome := t.onObject verb kind namespaceName name act
    s.Steady outcome.2 ∧
      t.cluster.Yields s.steadily.failures (act t.cluster) outcome.1 outcome.2.cluster := by
  obtain ⟨free, clock, told⟩ := steady
  simp only [onObject, free, Trap.spring, List.nil_append]
  cases result : act t.cluster with
  | error e => exact ⟨⟨rfl, clock, told⟩, rfl, .inl rfl⟩
  | ok outcome => exact ⟨⟨rfl, clock, told⟩, rfl⟩

theorem handle_steadily {s t : Simulation} (steady : s.Steady t) (c : Call) :
    s.Steady (handle c t).2 ∧
      Cluster.Answers s.steadily c t.cluster (handle c t).1 (handle c t).2.cluster := by
  cases c with
  | get kind namespaceName name => exact onObject_steadily steady ..
  | create kind object => exact onObject_steadily steady ..
  | replace kind object => exact onObject_steadily steady ..
  | replaceStatus kind object => exact onObject_steadily steady ..
  | ready =>
    unfold handle
    dsimp only
    split <;> exact ⟨steady, rfl⟩
  | publish event =>
    unfold handle
    dsimp only
    split <;> exact ⟨steady, rfl⟩
  | now => exact ⟨steady, steady.2.1, rfl⟩
  | cancelled => exact ⟨steady, steady.2.2, rfl⟩
  | sleep milliseconds => exact ⟨steady, rfl⟩

theorem runs_steadily {α : Type} {s : Simulation} (free : s.traps = []) (program : Program α) :
    program.Runs (Cluster.closedWorld s.steadily) s.cluster (s.exchanges program)
      (program.run handle s).1 (program.run handle s).2.cluster := by
  refine (Program.runs_exchanges s.Steady (fun c t steady => ?_) program s ⟨free, rfl, rfl⟩).1
  exact handle_steadily steady c

end Simulation

end AutoscalerOperator
