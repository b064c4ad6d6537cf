import AutoscalerOperator.Api.Request
import AutoscalerOperator.Proofs.Execution.Simulated
import AutoscalerOperator.Proofs.Json.Patching
import AutoscalerOperator.Proofs.Status.Published
import AutoscalerOperator.Proofs.Status.Repeated
import Mathlib.Tactic.SplitIfs

namespace AutoscalerOperator

open Kubernetes Program Cluster Json
open Relation (ReflTransGen)

namespace ClusterOperatorStatus

def members (s : ClusterOperatorStatus) : List (String × Json) := membersOf (toJson s)

theorem get?_members (s : ClusterOperatorStatus) (key : String) :
    Entries.get? key s.members =
      if key = "conditions" then unlessEmpty s.conditions
      else if key = "extension" then s.extension
      else if key = "relatedObjects" then unlessEmpty s.relatedObjects
      else if key = "versions" then s.versions.map toJson
      else none := by
  refine (get?_filterMap key _).trans ?_
  by_cases conditions : key = "conditions"
  · subst conditions
    cases unlessEmpty s.conditions <;> simp
  by_cases extension : key = "extension"
  · subst extension
    cases s.extension <;> simp
  by_cases related : key = "relatedObjects"
  · subst related
    cases unlessEmpty s.relatedObjects <;> simp
  by_cases versions : key = "versions"
  · subst versions
    cases s.versions <;> simp
  simp [conditions, extension, related, versions, Ne.symm conditions, Ne.symm extension,
    Ne.symm related, Ne.symm versions]

theorem ascending_members (s : ClusterOperatorStatus) : Entries.Ascending s.members := by
  refine ascending_record ?_
  change ["conditions", "extension", "relatedObjects", "versions"].Pairwise (· < ·)
  decide

/-- What makes a status fit to take the place of another one by a merge patch: it leaves out nothing
    that the other one says, and keeps its extension. -/
structure Supersedes (next previous : ClusterOperatorStatus) : Prop where
  conditions : next.conditions ≠ []
  related : next.relatedObjects ≠ []
  versions : next.versions = none → previous.versions = none
  extension : next.extension = previous.extension

theorem Supersedes.alike {previous next : ClusterOperatorStatus}
    (supersedes : next.Supersedes previous)
    (ordered : ∀ json, previous.extension = some json → json.Ordered) :
    ((toJson previous).mergePatch (toJson next)).Alike (toJson next) := by
  obtain ⟨conditions, related, versions, extension⟩ := supersedes
  have told {α : Type} [ToJson α] {values : List α} (nonempty : values ≠ []) :
      unlessEmpty values = some (toJson values) := by
    cases values with
    | nil => exact absurd rfl nonempty
    | cons => rfl
  have covered : ∀ key, Entries.get? key next.members = none →
      Entries.get? key previous.members = none := by
    intro key left
    rw [get?_members, told conditions, told related, extension] at left
    rw [get?_members]
    split_ifs at left ⊢
    · exact left
    · simp only [Option.map_eq_none_iff] at left ⊢
      exact versions left
    · rfl
  refine alike_mergeMembers previous.ascending_members next.ascending_members covered ?_
  intro key value said
  change Entries.get? key next.members = some value at said
  change (mergePatch ((Entries.get? key previous.members).getD .null) value).Alike value
  rw [get?_members, told conditions, told related, extension] at said
  rw [get?_members]
  -- Lists take the place of what was there, and the extension is the one that was there.
  split_ifs at said ⊢
  · cases said
    exact .refl _
  · rw [said]
    exact mergePatch_self_alike value (ordered value said)
  · cases said
    exact .refl _
  · obtain ⟨_, -, rfl⟩ := Option.map_eq_some_iff.mp said
    exact .refl _

end ClusterOperatorStatus

section

variable {circumstances : Circumstances} {config : Config} {reported : ClusterOperatorStatus}
  {start final : Cluster} {trace : List (Exchange Cluster)}

end

def ClusterOperator.extended : ClusterOperator where
  metadata := { name := operatorName }
  status := some {
    conditions := [{ type := .upgradeable, status := .false }]
    extension := some (.obj [("left", .null), ("nested", .obj [("empty", .null)])]) }

def Simulation.extended : Simulation where
  cluster := ({} : Cluster).insert .clusterOperator .extended
  clock := default

end AutoscalerOperator
