import AutoscalerOperator.Proofs.Execution.Footprint
import AutoscalerOperator.SelfHeal

namespace AutoscalerOperator

open Kubernetes Program Cluster

namespace Kubernetes.Namespace

def marked (space : Namespace) : Namespace :=
  { space with metadata := space.metadata.annotate createdDefaultAnnotation "true" }

end Kubernetes.Namespace

namespace Config

variable (config : Config)

abbrev readInstance : Call := .get .controller (some config.watchNamespace) config.name

abbrev readNamespace : Call := .get .ns none config.watchNamespace

abbrev createInstance : Call :=
  .create .controller (AutoscalerController.defaultInstance config.name config.watchNamespace)

end Config

/-- How the default instance is looked after in a cluster that nobody else writes to. -/
inductive HealRun (circumstances : Circumstances) (config : Config) (start : Cluster) :
    List (Exchange Cluster) → Except Error Unit → Cluster → Prop
  | found {current : AutoscalerController}
    (stored : start.find? .controller ⟨some config.watchNamespace, config.name⟩ = some current) :
    HealRun circumstances config start [⟨config.readInstance, .ok current, start, start⟩] (.ok ())
      start
  | unread {e : Error} (unclear : e.isNotFound = false) :
    HealRun circumstances config start [⟨config.readInstance, .error e, start, start⟩] (.error e)
      start
  | spared {missing : Error} {space : Namespace} (absent : missing.isNotFound = true)
    (seen : (closedWorld circumstances).answers config.readNamespace start (.ok space) start)
    (marked : isMarked space = true) :
    HealRun circumstances config start
      [⟨config.readInstance, .error missing, start, start⟩,
        ⟨config.readNamespace, .ok space, start, start⟩] (.ok ()) start
  | refused {missing e : Error} {watched : Except Error Namespace}
    (absent : missing.isNotFound = true)
    (seen : (closedWorld circumstances).answers config.readNamespace start watched start)
    (unmarked : watched.toOption.any isMarked = false) (failed : e.isAlreadyExists = false) :
    HealRun circumstances config start
      [⟨config.readInstance, .error missing, start, start⟩,
        ⟨config.readNamespace, watched, start, start⟩,
        ⟨config.createInstance, .error e, start, start⟩] (.error e) start
  | unseen {missing e : Error} {answer : Except Error AutoscalerController} {created : Cluster}
    (absent : missing.isNotFound = true)
    (seen : (closedWorld circumstances).answers config.readNamespace start (.error e) start)
    (answered : (closedWorld circumstances).answers config.createInstance start answer created)
    (stands : ∀ e, answer = .error e → e.isAlreadyExists = true) :
    HealRun circumstances config start
      [⟨config.readInstance, .error missing, start, start⟩,
        ⟨config.readNamespace, .error e, start, start⟩,
        ⟨config.createInstance, answer, start, created⟩] (.ok ()) created
  | marking {missing : Error} {space : Namespace} {answer : Except Error AutoscalerController}
    {told : Except Error Namespace} {created final : Cluster} (absent : missing.isNotFound = true)
    (seen : (closedWorld circumstances).answers config.readNamespace start (.ok space) start)
    (unmarked : isMarked space = false)
    (answered : (closedWorld circumstances).answers config.createInstance start answer created)
    (stands : ∀ e, answer = .error e → e.isAlreadyExists = true)
    (written : (closedWorld circumstances).answers (.replace .ns space.marked) created told final) :
    HealRun circumstances config start
      [⟨config.readInstance, .error missing, start, start⟩,
        ⟨config.readNamespace, .ok space, start, start⟩,
        ⟨config.createInstance, answer, start, created⟩,
        ⟨.replace .ns space.marked, told, created, final⟩] (told.map fun _ => ()) final

def Call.Waits : Call → Prop
  | .sleep _ | .ready => True
  | _ => False

theorem Call.Waits.silent {c : Call} (waits : c.Waits) : c.Silent := by
  cases c <;> first | exact True.intro | cases waits

def polled {σ : Type} (interval : Nat) (ready : Bool) (state : σ) : List (Exchange σ) :=
  [⟨.sleep interval, (), state, state⟩, ⟨.ready, ready, state, state⟩]

def unreached {σ : Type} (interval : Nat) (state : σ) : (polls : Nat) → List (Exchange σ)
  | 0 => []
  | polls + 1 => polled interval false state ++ unreached interval state polls

theorem waits_polled {interval : Nat} {ready : Bool} {state : Cluster} :
    ∀ exchange ∈ polled interval ready state,
      exchange.call.Waits ∧ exchange.before = state ∧ exchange.after = state := by
  simp [polled, Call.Waits]

theorem waits_unreached {interval polls : Nat} {state : Cluster} :
    ∀ exchange ∈ unreached interval state polls,
      exchange.call.Waits ∧ exchange.before = state ∧ exchange.after = state := by
  induction polls with
  | zero => exact List.forall_mem_nil _
  | succ polls ih => exact List.forall_mem_append.mpr ⟨waits_polled, ih⟩

section

variable {circumstances : Circumstances} {config : Config} {start final : Cluster}
  {trace : List (Exchange Cluster)} {result : Except Error Unit}

theorem runs_createDefault {watched : Option Namespace}
    (run : (createDefault config watched).Runs (closedWorld circumstances) start trace result
      final) :
    (∃ e, e.isAlreadyExists = false ∧ result = .error e ∧ final = start ∧
        trace = [⟨config.createInstance, .error e, start, start⟩]) ∨
      ∃ answer created rest,
        (closedWorld circumstances).answers config.createInstance start answer created ∧
        (∀ e, answer = .error e → e.isAlreadyExists = true) ∧
        (markCreated watched).Runs (closedWorld circumstances) created rest result final ∧
        trace = ⟨config.createInstance, answer, start, created⟩ :: rest := by
  obtain ⟨answer, created, rest, answered, upon, rfl⟩ := closed_ask_iff.mp run
  cases answer with
  | ok stored => exact .inr ⟨_, created, rest, answered, nofun, upon, rfl⟩
  | error e =>
    change Runs _ (if e.isAlreadyExists then _ else _) _ _ _ _ at upon
    cases there : e.isAlreadyExists with
    | true =>
      rw [if_pos there] at upon
      refine .inr ⟨_, created, rest, answered, ?_, upon, rfl⟩
      rintro _ ⟨⟩
      exact there
    | false =>
      rw [if_neg (by simp [there])] at upon
      obtain ⟨rfl, rfl, rfl⟩ := closed_done_iff.mp upon
      obtain ⟨rfl, -⟩ := answered
      exact .inl ⟨e, there, rfl, rfl, rfl⟩

theorem healRun_of_runs
    (run : (healOnce config).Runs (closedWorld circumstances) start trace result final) :
    HealRun circumstances config start trace result final := by
  obtain ⟨answer, _, rest, read, upon, rfl⟩ := closed_ask_iff.mp run
  cases answer with
  | ok current =>
    obtain ⟨stored, rfl⟩ := answers_get_ok read
    obtain ⟨rfl, rfl, rfl⟩ := closed_done_iff.mp upon
    exact .found stored
  | error missing =>
    obtain ⟨rfl, -⟩ := answers_get_error read
    change Runs _ (if missing.isNotFound then _ else _) _ _ _ _ at upon
    cases absent : missing.isNotFound with
    | false =>
      rw [if_neg (by simp [absent])] at upon
      obtain ⟨rfl, rfl, rfl⟩ := closed_done_iff.mp upon
      exact .unread absent
    | true =>
      rw [if_pos absent] at upon
      obtain ⟨watched, seen, rest, looked, next, rfl⟩ := closed_ask_iff.mp upon
      obtain rfl := answers_get_same looked
      change Runs _ (if watched.toOption.any isMarked then _ else _) _ _ _ _ at next
      cases known : watched.toOption.any isMarked with
      | true =>
        rw [if_pos known] at next
        obtain ⟨rfl, rfl, rfl⟩ := closed_done_iff.mp next
        cases watched with
        | error e => cases known
        | ok space => exact .spared absent looked known
      | false =>
        rw [if_neg (by simp [known])] at next
        rcases runs_createDefault next with ⟨e, clear, rfl, rfl, rfl⟩ |
          ⟨made, created, rest, answered, stands, marking, rfl⟩
        · exact .refused absent looked known clear
        · cases watched with
          | error e =>
            obtain ⟨rfl, rfl, rfl⟩ := closed_done_iff.mp marking
            exact .unseen absent looked answered stands
          | ok space =>
            obtain ⟨told, written, rest, replaced, last, rfl⟩ := closed_ask_iff.mp marking
            cases told <;>
            · obtain ⟨rfl, rfl, rfl⟩ := closed_done_iff.mp last
              exact .marking absent looked known answered stands replaced

theorem runs_healWithin_polls {interval attempts : Nat} {value : Unit}
    (run : (healWithin config interval attempts).Runs (closedWorld circumstances) start trace value
      final) :
    (trace = unreached interval start attempts ∧ final = start) ∨
      ∃ polls checks result, polls < attempts ∧
        trace = unreached interval start polls ++ polled interval true start ++ checks ∧
        (healOnce config).Runs (closedWorld circumstances) start checks result final := by
  induction attempts generalizing trace with
  | zero =>
    obtain ⟨rfl, -, same⟩ := closed_done_iff.mp run
    exact .inl ⟨rfl, same⟩
  | succ attempts ih =>
    obtain ⟨_, slept, _, waited, upon, rfl⟩ := closed_ask_iff.mp run
    obtain ⟨ready, asked, trace, reached, next, rfl⟩ := closed_ask_iff.mp upon
    cases (show slept = start from waited)
    cases (show asked = start from reached)
    cases ready with
    | false =>
      rcases ih next with ⟨rfl, same⟩ | ⟨polls, checks, result, within, rfl, heals⟩
      · exact .inl ⟨rfl, same⟩
      · exact .inr ⟨polls + 1, checks, result, Nat.succ_lt_succ within, rfl, heals⟩
    | true =>
      obtain ⟨checks, result, healed, rest, heals, done, rfl⟩ := runs_bind_iff.mp next
      obtain ⟨rfl, -, rfl⟩ := closed_done_iff.mp done
      rw [List.append_nil]
      exact .inr ⟨0, checks, result, Nat.zero_lt_succ _, rfl, heals⟩

theorem runs_healWithin {interval attempts : Nat} {value : Unit}
    (run : (healWithin config interval attempts).Runs (closedWorld circumstances) start trace value
      final) :
    ∃ waiting rest, trace = waiting ++ rest ∧
      (∀ exchange ∈ waiting, exchange.call.Waits ∧ exchange.before = start ∧
        exchange.after = start) ∧
      (rest = [] ∧ final = start ∨
        ∃ result, (healOnce config).Runs (closedWorld circumstances) start rest result final) := by
  rcases runs_healWithin_polls run with ⟨rfl, same⟩ | ⟨polls, checks, result, -, rfl, heals⟩
  · exact ⟨_, [], (List.append_nil _).symm, waits_unreached, .inl ⟨rfl, same⟩⟩
  · exact ⟨_, checks, rfl, List.forall_mem_append.mpr ⟨waits_unreached, waits_polled⟩,
      .inr ⟨result, heals⟩⟩

end

end AutoscalerOperator
