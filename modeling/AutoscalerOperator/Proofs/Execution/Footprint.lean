import AutoscalerOperator.Proofs.Cluster.Writes

namespace AutoscalerOperator

def Call.WritesOnly (kinds : Kind → Prop) : Call → Prop
  | .create kind _ | .replace kind _ | .replaceStatus kind _ => kinds kind
  | _ => True

theorem Call.WritesOnly.writes?_ne {c : Call} {kinds : Kind → Prop} {kind : Kind}
    (only : c.WritesOnly kinds) (other : ¬kinds kind) : c.writes? ≠ some kind := by
  intro writes
  cases c with
  | create | replace | replaceStatus =>
    cases writes
    exact other only
  | get | ready | publish | now | cancelled | sleep => cases writes

namespace Program

variable {α β σ : Type} {allowed : Call → Prop}

/-- Whatever a program is answered, it makes no other calls than these. -/
def Only (allowed : Call → Prop) : Program α → Prop
  | .done _ => True
  | .call c next => allowed c ∧ ∀ answer, (next answer).Only allowed

theorem only_ask {c : Call} (asked : allowed c) : (ask c).Only allowed :=
  ⟨asked, fun _ => trivial⟩

theorem only_bind {program : Program α} {rest : α → Program β} (first : program.Only allowed)
    (later : ∀ value, (rest value).Only allowed) : (program >>= rest).Only allowed := by
  induction program with
  | done value => exact later value
  | call c next ih => exact ⟨first.1, fun answer => ih answer (first.2 answer)⟩

theorem Runs.only {world : World σ} {program : Program α} {start final : σ}
    {trace : List (Exchange σ)} {value : α} (run : program.Runs world start trace value final)
    (only : program.Only allowed) : ∀ exchange ∈ trace, allowed exchange.call := by
  induction run with
  | done moved => intro exchange member; cases member
  | call moved answered _ ih =>
    intro exchange member
    rcases List.mem_cons.mp member with rfl | member
    · exact only.1
    · exact ih (only.2 _) exchange member

end Program

namespace Cluster

variable {circumstances : Circumstances} {moves : Cluster → Cluster → Prop} {kind : Kind}
  {key : ObjectKey} {cluster start final after : Cluster}

theorem find?_answers {c : Call} {answer : c.Answer} (other : c.writes? ≠ some kind)
    (answered : (world circumstances moves).answers c cluster answer after) :
    after.find? kind key = cluster.find? kind key := by
  refine keeps_of_answers (P := fun after => after.find? kind key = cluster.find? kind key) rfl
    (fun puts settles => ?_) answered
  obtain ⟨-, place, -, -, rfl⟩ := settles
  exact find?_write_of_kind_ne cluster _ fun same => other (same ▸ puts.writes?)

theorem Writes.failing_eq (written : cluster.Writes after) : after.failing = cluster.failing := by
  cases written
  rfl

theorem failing_answers {c : Call} {answer : c.Answer}
    (answered : (world circumstances moves).answers c cluster answer after) :
    after.failing = cluster.failing := by
  rcases writes_of_answers answered with rfl | written
  · rfl
  · exact written.failing_eq

section

variable {α : Type} {program : Program α} {trace : List (Exchange Cluster)} {value : α}

theorem find?_run (others : ∀ exchange ∈ trace, exchange.call.writes? ≠ some kind)
    (run : program.Runs (closedWorld circumstances) start trace value final) :
    final.find? kind key = start.find? kind key :=
  run_keeps (fun cluster => cluster.find? kind key = start.find? kind key)
    (fun _ c => c.writes? ≠ some kind)
    (fun other answered same => (find?_answers other answered).trans same) rfl run others

theorem failing_run (run : program.Runs (closedWorld circumstances) start trace value final) :
    final.failing = start.failing :=
  run_keeps (·.failing = start.failing) (fun _ _ => True)
    (fun _ answered same => (failing_answers answered).trans same) rfl run fun _ _ => trivial

theorem Keyed.run (keyed : start.Keyed)
    (run : program.Runs (closedWorld circumstances) start trace value final) : final.Keyed := by
  refine run_keeps Keyed (fun _ _ => True) (fun _ answered keyed => ?_) keyed run
    fun _ _ => trivial
  rcases writes_of_answers answered with rfl | written
  · exact keyed
  · exact keyed.writes written

end

end Cluster

end AutoscalerOperator
