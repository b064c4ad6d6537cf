import AutoscalerOperator.Proofs.Cluster.Versions

namespace AutoscalerOperator

open Kubernetes Program
open Relation (ReflTransGen)

namespace Cluster

/-- What another client may do to the objects of a cluster, while versions are left. -/
inductive ClientWrite (cluster : Cluster) : Cluster → Prop
  | create {kind : Kind} {object stored : kind.Object} {after : Cluster} (room : cluster.HasRoom)
    (made : cluster.create kind object = .ok (stored, after)) : ClientWrite cluster after
  | replace {kind : Kind} {object stored : kind.Object} {after : Cluster} (room : cluster.HasRoom)
    (written : cluster.replace kind object = .ok (stored, after)) : ClientWrite cluster after
  | replaceStatus {kind : Kind} {object stored : kind.Object} {after : Cluster}
    (room : cluster.HasRoom)
    (written : cluster.replaceStatus kind object = .ok (stored, after)) : ClientWrite cluster after

/-- A cluster that other clients may write to between any two calls. -/
def sharedWorld (circumstances : Circumstances) : World Cluster := world circumstances ClientWrite

variable {circumstances : Circumstances} {start final : Cluster}

theorem ClientWrite.writes (client : start.ClientWrite final) :
    start.HasRoom ∧ start.Writes final := by
  cases client with
  | create room made => exact ⟨room, writes_of_create made⟩
  | replace room written => exact ⟨room, writes_of_replace written⟩
  | replaceStatus room written => exact ⟨room, writes_of_replaceStatus written⟩

theorem Sound.moved (sound : start.Sound) (moved : ReflTransGen ClientWrite start final) :
    final.Sound ∧ start.Follows final := by
  induction moved with
  | refl => exact ⟨sound, .refl start⟩
  | tail _ client ih =>
    obtain ⟨room, written⟩ := client.writes
    exact ⟨written.sound room ih.1, ih.2.trans (written.follows room)⟩

theorem Sound.answered {c : Call} {answer : c.Answer} (sound : start.Sound) (room : start.HasRoom)
    (answered : (sharedWorld circumstances).answers c start answer final) :
    final.Sound ∧ start.Follows final := by
  rcases writes_of_answers answered with rfl | written
  · exact ⟨sound, .refl final⟩
  · exact ⟨written.sound room sound, written.follows room⟩

theorem Sound.ran {α : Type} {program : Program α} {trace : List (Exchange Cluster)} {value : α}
    (sound : start.Sound)
    (run : program.Runs (sharedWorld circumstances) start trace value final)
    (room : ∀ exchange ∈ trace, exchange.before.HasRoom) :
    final.Sound ∧ start.Follows final := by
  induction run with
  | done moved => exact sound.moved moved
  | call moved answered _ ih =>
    obtain ⟨sound, first⟩ := sound.moved moved
    obtain ⟨here, later⟩ := List.forall_mem_cons.mp room
    obtain ⟨sound, second⟩ := sound.answered here answered
    obtain ⟨sound, rest⟩ := ih sound later
    exact ⟨sound, (first.trans second).trans rest⟩

end Cluster

end AutoscalerOperator
