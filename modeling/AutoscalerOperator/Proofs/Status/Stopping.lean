import AutoscalerOperator.Proofs.Execution.Simulated
import AutoscalerOperator.Proofs.Status.Runs
import AutoscalerOperator.Status.Poll

namespace AutoscalerOperator

open Kubernetes Program
open Relation (ReflTransGen)

/-- A world in which the operator may be told to stop while it waits for the answer to a call, and
    in which it hears of that whenever it asks from then on. -/
structure World.Stops {σ : Type} (world : World σ) (stopped : σ → Prop) : Prop where
  moves : ∀ {before after}, world.moves before after → (stopped after ↔ stopped before)
  asked : ∀ {before told after}, world.answers .cancelled before told after →
    (told = true ↔ stopped before) ∧ (stopped after ↔ stopped before)
  kept : ∀ {c before answer after}, world.answers c before answer after → stopped before →
    stopped after

section

variable {σ : Type} {stopped : σ → Prop}

namespace Exchange

def WritesLate (stopped : σ → Prop) (exchange : Exchange σ) : Prop :=
  exchange.call.writes? ≠ none ∧ stopped exchange.before

/-- Whether the operator was told to stop while it found out that the object it publishes in is
    missing. -/
inductive Overtaken (stopped : σ → Prop) : Exchange σ → Prop
  | missing {e : Error} {before after : σ} (absent : e.isNotFound = true)
    (early : ¬stopped before) (late : stopped after) :
    Overtaken stopped ⟨.get .clusterOperator none operatorName, .error e, before, after⟩

end Exchange

/-- What is written after the operator has been told to stop: nothing, unless that came while the
    object to publish in was found missing. Then it is the creation of that object, and nothing is
    written after it. -/
structure LateWrites (stopped : σ → Prop) (trace : List (Exchange σ)) : Prop where
  iff_overtaken : (∃ exchange ∈ trace, exchange.WritesLate stopped) ↔
    ∃ read ∈ trace, read.Overtaken stopped
  creation : ∀ exchange ∈ trace, exchange.WritesLate stopped →
    exchange.call = .create .clusterOperator .fresh
  last : trace.Pairwise fun exchange later =>
    exchange.WritesLate stopped → later.call.writes? = none

theorem lateWrites_of_timely {trace : List (Exchange σ)}
    (timely : ∀ exchange ∈ trace, ¬exchange.WritesLate stopped)
    (undisturbed : ∀ exchange ∈ trace, ¬exchange.Overtaken stopped) :
    LateWrites stopped trace where
  iff_overtaken := by
    constructor
    · rintro ⟨exchange, member, late⟩
      exact absurd late (timely exchange member)
    · rintro ⟨read, member, overtaken⟩
      exact absurd overtaken (undisturbed read member)
  creation exchange member late := absurd late (timely exchange member)
  last := List.pairwise_of_forall_mem_list fun exchange member _ _ late =>
    absurd late (timely exchange member)

variable {world : World σ} {start middle final : σ} {first rest trace : List (Exchange σ)}

theorem World.Stops.moved (stops : world.Stops stopped)
    (moved : ReflTransGen world.moves start final) : stopped final ↔ stopped start := by
  induction moved with
  | refl => rfl
  | tail _ move ih => exact (stops.moves move).trans ih

section

variable {α : Type} {program : Program α} {value : α}

theorem World.Stops.ran (stops : world.Stops stopped)
    (run : program.Runs world start trace value final) :
    (stopped start → stopped final ∧ ∀ exchange ∈ trace, stopped exchange.before) ∧
      ∀ exchange ∈ trace, stopped exchange.before → stopped final := by
  induction run with
  | done moved => exact ⟨fun told => ⟨(stops.moved moved).mpr told, by simp⟩, by simp⟩
  | call moved answered _ ih =>
    obtain ⟨onward, still⟩ := ih
    constructor
    · intro told
      have asked := (stops.moved moved).mpr told
      obtain ⟨last, later⟩ := onward (stops.kept answered asked)
      exact ⟨last, List.forall_mem_cons.mpr ⟨asked, later⟩⟩
    · refine List.forall_mem_cons.mpr ⟨fun asked => ?_, still⟩
      exact (onward (stops.kept answered asked)).1

theorem LateWrites.quiet (lateWrites : LateWrites stopped trace) (stops : world.Stops stopped)
    (run : program.Runs world start trace value final) (told : stopped start) :
    ∀ exchange ∈ trace, exchange.call.writes? = none := by
  intro exchange member
  -- A late write takes a read that was early, and every call here comes after the word to stop.
  have always := ((stops.ran run).1 told).2
  refine Classical.byContradiction fun writes => ?_
  obtain ⟨read, seen, overtaken⟩ :=
    lateWrites.iff_overtaken.mp ⟨exchange, member, writes, always exchange member⟩
  have asked := always read seen
  cases overtaken with
  | missing absent early late => exact early asked

end

theorem LateWrites.append {α β : Type} {program : Program α} {next : Program β} {value : α}
    {result : β} (early : LateWrites stopped first) (stops : world.Stops stopped)
    (head : program.Runs world start first value middle)
    (tail : next.Runs world middle rest result final) (later : LateWrites stopped rest) :
    LateWrites stopped (first ++ rest) where
  iff_overtaken := by
    simp only [List.mem_append, or_and_right, exists_or]
    exact or_congr early.iff_overtaken later.iff_overtaken
  creation exchange member late := by
    rcases List.mem_append.mp member with member | member
    · exact early.creation exchange member late
    · exact later.creation exchange member late
  last := by
    refine List.pairwise_append.mpr ⟨early.last, later.last, ?_⟩
    intro exchange member other follows late
    have told := (stops.ran head).2 exchange member late.2
    exact later.quiet stops tail told other follows

theorem LateWrites.cons {exchange : Exchange σ} (silent : exchange.call.writes? = none)
    (undisturbed : ¬exchange.Overtaken stopped) (later : LateWrites stopped rest) :
    LateWrites stopped (exchange :: rest) := by
  have timely : ¬exchange.WritesLate stopped := fun late => late.1 silent
  refine ⟨?_, ?_, List.pairwise_cons.mpr ⟨fun _ _ late => absurd late timely, later.last⟩⟩
  · simpa [timely, undisturbed] using later.iff_overtaken
  · simpa [timely] using later.creation

namespace Program

variable {α β : Type}

/-- A program that, however it runs, writes late only in that way. -/
def Heeds (world : World σ) (stopped : σ → Prop) (program : Program α) : Prop :=
  ∀ start trace value final, program.Runs world start trace value final →
    LateWrites stopped trace

theorem heeds_of_only {program : Program α}
    (only : program.Only fun c =>
      c.writes? = none ∧ c ≠ .get .clusterOperator none operatorName) :
    program.Heeds world stopped := by
  intro start trace value final run
  have calls := run.only only
  refine lateWrites_of_timely ?_ ?_
  · rintro exchange member ⟨writes, -⟩
    exact writes (calls exchange member).1
  · rintro _ member ⟨⟩
    exact (calls _ member).2 rfl

theorem heeds_bind {program : Program α} {next : α → Program β} (stops : world.Stops stopped)
    (first : program.Heeds world stopped) (later : ∀ value, (next value).Heeds world stopped) :
    (program >>= next).Heeds world stopped := by
  intro start trace value final run
  obtain ⟨early, between, middle, rest, head, tail, rfl⟩ := runs_bind_iff.mp run
  exact (first _ _ _ _ head).append stops head tail (later _ _ _ _ _ tail)

end Program

section

variable {config : Config} {reported : ClusterOperatorStatus}

theorem openingRun_lateWrites {shown : Except Error ClusterOperator} (stops : world.Stops stopped)
    (running : ¬stopped start) (run : OpeningRun world start trace shown final) :
    LateWrites stopped trace := by
  cases run with
  | found moved read left =>
    exact (lateWrites_of_timely (by simp) (by simp)).cons rfl nofun
  | unread moved read unclear left =>
    refine (lateWrites_of_timely (by simp) (by simp)).cons rfl ?_
    rintro ⟨absent⟩
    cases unclear.symm.trans absent
  | @created before after again written _ e _ moved read absent further answered left =>
    -- The object is created without another look at whether to stop, so it is created late exactly
    -- if the word came during the read.
    have early : ¬stopped before := fun told => running ((stops.moved moved).mp told)
    have same : stopped again ↔ stopped after := stops.moved further
    generalize reads :
      (⟨.get .clusterOperator none operatorName, .error e, before, after⟩ : Exchange σ) = reading
    generalize creates :
      (⟨.create .clusterOperator .fresh, shown, again, written⟩ : Exchange σ) = creating
    have timely : ¬reading.WritesLate stopped := by
      subst reads
      exact fun late => late.1 rfl
    have overtaken : reading.Overtaken stopped ↔ stopped after := by
      subst reads
      constructor
      · rintro ⟨-, -, told⟩
        exact told
      · exact .missing absent early
    have late : creating.WritesLate stopped ↔ stopped again := by
      subst creates
      exact and_iff_right (Option.some_ne_none Kind.clusterOperator)
    have undisturbed : ¬creating.Overtaken stopped := by
      subst creates
      nofun
    constructor
    · simp [timely, late, same, overtaken, undisturbed]
    · simp [timely, ← creates]
    · simp [timely]

theorem guardedWrite_heeds {α : Type} {object : ClusterOperator} {value : α}
    {next : Except Error ClusterOperator → Program α} (stops : world.Stops stopped)
    (last : ∀ answer, ∃ value, next answer = .done value) :
    (ask .cancelled >>= fun told =>
      if told then pure value
      else ask (.replaceStatus .clusterOperator object) >>= next).Heeds world stopped := by
  intro start trace value final run
  obtain ⟨_, told, _, rest, -, answered, upon, rfl⟩ := runs_ask_iff.mp run
  refine LateWrites.cons rfl nofun ?_
  cases told with
  | true =>
    obtain ⟨rfl, -, -⟩ := runs_done_iff.mp upon
    exact lateWrites_of_timely (by simp) (by simp)
  | false =>
    -- No call comes between the look at whether to stop and the write.
    obtain ⟨asked, same⟩ := stops.asked answered
    obtain ⟨before, answer, _, rest, ready, -, done, rfl⟩ := runs_ask_iff.mp upon
    have timely : ¬stopped before := by simp [stops.moved ready, same, ← asked]
    obtain ⟨value, ends⟩ := last answer
    rw [ends] at done
    obtain ⟨rfl, -, -⟩ := runs_done_iff.mp done
    refine lateWrites_of_timely (List.forall_mem_singleton.mpr fun late => timely late.2) ?_
    exact List.forall_mem_singleton.mpr nofun

theorem applyStatus_heeds (stops : world.Stops stopped) :
    (applyStatus config reported).Heeds world stopped := by
  intro start trace value final run
  obtain ⟨before, told, after, rest, moved, answered, upon, rfl⟩ := runs_ask_iff.mp run
  refine LateWrites.cons rfl nofun ?_
  cases told with
  | true =>
    obtain ⟨rfl, -, -⟩ := runs_done_iff.mp upon
    exact lateWrites_of_timely (by simp) (by simp)
  | false =>
    obtain ⟨asked, same⟩ := stops.asked answered
    have running : ¬stopped after := by simp [same, ← asked]
    obtain ⟨opening, shown, middle, rest, opened, next, rfl⟩ := runs_bind_iff.mp upon
    have early := openingRun_lateWrites stops running (openingRun_of_runs opened)
    refine early.append stops opened next ?_
    cases shown with
    | error e =>
      obtain ⟨rfl, -, -⟩ := runs_done_iff.mp next
      exact lateWrites_of_timely (by simp) (by simp)
    | ok existing =>
      obtain ⟨_, now, _, rest, -, -, writing, rfl⟩ := runs_ask_iff.mp next
      refine LateWrites.cons rfl nofun ?_
      change Runs world (if (existing.reporting config reported now).changed then _ else _)
        _ _ _ _ at writing
      split at writing
      · refine guardedWrite_heeds stops (fun answer => ?_) _ _ _ _ writing
        cases answer <;> exact ⟨_, rfl⟩
      · obtain ⟨rfl, -, -⟩ := runs_done_iff.mp writing
        exact lateWrites_of_timely (by simp) (by simp)

theorem reportStatus_heeds (stops : world.Stops stopped) (config : Config) :
    (reportStatus config).Heeds world stopped := by
  have elsewhere (kind : Kind) (namespaceName : Option String) (name : String)
      (other : kind ≠ .clusterOperator) : (Call.get kind namespaceName name).writes? = none ∧
        Call.get kind namespaceName name ≠ .get .clusterOperator none operatorName := by
    refine ⟨rfl, ?_⟩
    rintro ⟨⟩
    exact other rfl
  refine heeds_bind stops (heeds_of_only (checkRecommender_only elsewhere)) fun checked => ?_
  refine heeds_bind stops (applyStatus_heeds stops) fun applied => heeds_of_only ?_
  cases applied <;> trivial

theorem pollStatus_heeds (stops : world.Stops stopped) (config : Config) (intervals : Nat) :
    (pollStatus config intervals).Heeds world stopped := by
  have asks : (ask .cancelled).Heeds world stopped := heeds_of_only (only_ask ⟨rfl, nofun⟩)
  have sleeps : (ask (.sleep pollInterval)).Heeds world stopped :=
    heeds_of_only (only_ask ⟨rfl, nofun⟩)
  have ends (told : Bool) : (Program.done told).Heeds world stopped := heeds_of_only trivial
  induction intervals with
  | zero =>
    refine heeds_bind stops asks fun told => ?_
    cases told with
    | true => exact ends true
    | false => exact heeds_bind stops (reportStatus_heeds stops config) fun _ => asks
  | succ intervals ih =>
    refine heeds_bind stops asks fun told => ?_
    cases told with
    | true => exact ends true
    | false =>
      refine heeds_bind stops (reportStatus_heeds stops config) fun _ => ?_
      refine heeds_bind stops asks fun told => ?_
      cases told with
      | true => exact ends true
      | false => exact heeds_bind stops sleeps fun _ => ih

end

/-- Neither a report nor the polling writes anything after the operator has been told to stop, but
    for the object to publish in: it is created if the word came while that was found missing. -/
theorem late_writes_of_reports (stops : world.Stops stopped) (config : Config) :
    (∀ start trace result final, (reportStatus config).Runs world start trace result final →
      LateWrites stopped trace) ∧
    ∀ intervals start trace told final,
      (pollStatus config intervals).Runs world start trace told final → LateWrites stopped trace :=
  ⟨reportStatus_heeds stops config, fun intervals => pollStatus_heeds stops config intervals⟩

end

namespace Simulation

def world : World Simulation where
  moves _ _ := False
  answers c s answer t := handle c s = (answer, t)

theorem runs_world {α : Type} (s : Simulation) (program : Program α) :
    program.Runs world s (program.exchanges handle id s) (program.run handle s).1
      (program.run handle s).2 :=
  (@runs_exchanges α _ _ world handle id (fun _ => True) (fun _ _ _ => ⟨trivial, rfl⟩) program s
    trivial).1

theorem onObject_cancelled {α : Type} {s : Simulation} (told : s.isCancelled = true) (verb : Verb)
    (kind : Kind) (namespaceName name : Option String)
    (act : Cluster → Except Error (α × Cluster)) :
    (s.onObject verb kind namespaceName name act).2.isCancelled = true := by
  have kept : (s.onObject verb kind namespaceName name act).2.token = s.token ∧
      s.cancelledTokens ⊆ (s.onObject verb kind namespaceName name act).2.cancelledTokens := by
    have more := List.subset_append_right (Trap.spring verb kind s.traps).cancelled s.cancelledTokens
    unfold onObject
    dsimp only
    split
    · exact ⟨rfl, more⟩
    · split <;> exact ⟨rfl, more⟩
  obtain ⟨same, grown⟩ := kept
  simp only [isCancelled, List.contains_iff_mem] at told ⊢
  rw [same]
  exact grown told

theorem handle_cancelled {s : Simulation} (told : s.isCancelled = true) (c : Call) :
    (handle c s).2.isCancelled = true := by
  cases c with
  | get | create | replace | replaceStatus => exact onObject_cancelled told ..
  | ready | publish =>
    unfold handle
    dsimp only
    split <;> exact told
  | now | cancelled | sleep => exact told

theorem world_stops : world.Stops (·.isCancelled = true) where
  moves := nofun
  asked := by
    rintro s told t ⟨⟩
    exact ⟨Iff.rfl, Iff.rfl⟩
  kept := by
    intro c s answer t handled told
    have after : (handle c s).2 = t := congrArg Prod.snd handled
    rw [← after]
    exact handle_cancelled told c

def interrupted : Simulation where
  traps := [{ verb := .get, kind := .clusterOperator, effect := .cancel 0 }]
  clock := default

end Simulation

theorem interrupted_report_creates :
    let trace := (reportStatus {}).exchanges Simulation.handle id .interrupted
    LateWrites (·.isCancelled = true) trace ∧
      ∃ exchange ∈ trace, exchange.WritesLate (·.isCancelled = true) := by
  intro trace
  have late := (late_writes_of_reports Simulation.world_stops {}).1 _ _ _ _
    (Simulation.interrupted.runs_world (reportStatus {}))
  refine ⟨late, late.iff_overtaken.mpr ?_⟩
  exact ⟨_, .tail _ (.tail _ (.head _)), .missing rfl nofun rfl⟩

/-- It is not so that nothing is written after the token was cancelled. -/
theorem report_writes_after_cancellation :
    ¬∀ (config : Config) (s : Simulation),
      ∀ exchange ∈ (reportStatus config).exchanges Simulation.handle id s,
        ¬exchange.WritesLate (·.isCancelled = true) := by
  intro never
  exact never {} .interrupted _ (.tail _ (.tail _ (.tail _ (.head _)))) ⟨nofun, rfl⟩

end AutoscalerOperator
