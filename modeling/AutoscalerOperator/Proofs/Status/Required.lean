import AutoscalerOperator.Proofs.Json.Congruence
import AutoscalerOperator.Proofs.Status.Repeated
import AutoscalerOperator.Status.Publish
import Mathlib.Data.List.Forall2
import Mathlib.Data.List.Sort

namespace AutoscalerOperator

open Json

namespace Condition

/-- Whether the first of the previous conditions of this type gives it the same status, since a
    time. -/
def Stood (previous : List Condition) (c : Condition) (time : Instant) : Prop :=
  ∃ earlier p later, previous = earlier ++ p :: later ∧ (∀ q ∈ earlier, q.type ≠ c.type) ∧
    p.type = c.type ∧ p.status = c.status ∧ p.lastTransitionTime = some time

/-- A condition with its time: that since which it stands, or else now. -/
inductive Dated (previous : List Condition) (now : Instant) (c : Condition) : Condition → Prop
  | kept {time : Instant} (stood : c.Stood previous time) : Dated previous now c (c.dated time)
  | anew (fresh : ∀ time, ¬c.Stood previous time) : Dated previous now c (c.dated now)

/-- Conditions after progress: the first about it has the time, or there is one now. -/
inductive Progressed (now : Instant) (conditions : List Condition) : List Condition → Prop
  | reset {earlier later : List Condition} {c : Condition}
    (split : conditions = earlier ++ c :: later) (others : ∀ q ∈ earlier, q.type ≠ .progressing)
    (about : c.type = .progressing) : Progressed now conditions (earlier ++ c.dated now :: later)
  | appended (untold : ∀ c ∈ conditions, c.type ≠ .progressing) :
    Progressed now conditions (conditions ++
      [{ type := .progressing, status := .unknown, lastTransitionTime := some now }])

end Condition

/-- Whether objects are the namespaces that the operator works in, each once and in order. -/
def ListsNamespaces (config : Config) (objects : List RelatedObject) : Prop :=
  ∃ names : List String, objects = names.map relatedNamespace ∧ names.Pairwise (· < ·) ∧
    ∀ name, name ∈ names ↔ name = config.watchNamespace ∨ name = config.operandNamespace

/-- What is to be published: what was reported, and what that leaves open. -/
structure Required (config : Config) (previous reported : ClusterOperatorStatus) (now : Instant)
    (required : ClusterOperatorStatus) : Prop where
  conditions : ∃ dated, List.Forall₂ (Condition.Dated previous.conditions now) reported.conditions
      dated ∧
    if semanticEq required.versions previous.versions then required.conditions = dated
    else Condition.Progressed now dated required.conditions
  versions : required.versions = reported.versions.or previous.versions
  extension : required.extension = previous.extension
  related : ListsNamespaces config required.relatedObjects

theorem Condition.stood_iff {previous : List Condition} {c : Condition} {time : Instant} :
    c.Stood previous time ↔ ((findCondition previous c.type).bind fun p =>
      if p.status = c.status then p.lastTransitionTime else none) = some time := by
  rw [Option.bind_eq_some_iff]
  constructor
  · rintro ⟨earlier, p, later, rfl, others, type, status, stands⟩
    refine ⟨p, ?_, by rw [if_pos status, stands]⟩
    exact List.find?_eq_some_iff_append.mpr
      ⟨decide_eq_true type, earlier, later, rfl, fun q member => by simp [others q member]⟩
  · rintro ⟨p, found, stands⟩
    obtain ⟨type, earlier, later, whole, others⟩ := List.find?_eq_some_iff_append.mp found
    split at stands
    · rename_i status
      exact ⟨earlier, p, later, whole, fun q member => by simpa using others q member,
        of_decide_eq_true type, status, stands⟩
    · cases stands

theorem Condition.dated_iff {previous : List Condition} {now : Instant} {c after : Condition} :
    c.Dated previous now after ↔ c.since previous now = after := by
  have since (time : Option Instant) (same : ((findCondition previous c.type).bind fun p =>
      if p.status = c.status then p.lastTransitionTime else none) = time) :
      c.since previous now = c.dated (time.getD now) := by
    rw [Condition.since, same]
    rfl
  constructor
  · rintro (stood | fresh)
    · exact since _ (Condition.stood_iff.mp stood)
    · refine since none (Option.eq_none_iff_forall_ne_some.mpr fun time stands => ?_)
      exact fresh time (Condition.stood_iff.mpr stands)
  · rintro rfl
    cases found : (findCondition previous c.type).bind fun p =>
        if p.status = c.status then p.lastTransitionTime else none with
    | none =>
      rw [since none found]
      refine .anew fun time stood => ?_
      cases found.symm.trans (Condition.stood_iff.mp stood)
    | some time =>
      rw [since _ found]
      exact .kept (Condition.stood_iff.mpr found)

theorem Condition.forall₂_dated_iff {previous conditions dated : List Condition} {now : Instant} :
    List.Forall₂ (Condition.Dated previous now) conditions dated ↔
      conditions.map (·.since previous now) = dated := by
  have same : Condition.Dated previous now = fun c after => c.since previous now = after := by
    funext c after
    exact propext Condition.dated_iff
  rw [same, ← List.forall₂_map_left_iff, List.forall₂_eq_eq_eq]

theorem resetProgressingTime_append (now : Instant) {earlier : List Condition}
    (others : ∀ q ∈ earlier, q.type ≠ .progressing) (later : List Condition) :
    resetProgressingTime now (earlier ++ later) = earlier ++ resetProgressingTime now later := by
  induction earlier with
  | nil => rfl
  | cons head rest ih =>
    rw [List.cons_append, resetProgressingTime, if_neg (others head List.mem_cons_self),
      ih fun q member => others q (List.mem_cons_of_mem _ member), List.cons_append]

theorem resetProgressingTime_untold (now : Instant) {conditions : List Condition}
    (untold : ∀ c ∈ conditions, c.type ≠ .progressing) :
    resetProgressingTime now conditions = conditions ++
      [{ type := .progressing, status := .unknown, lastTransitionTime := some now }] := by
  have reset := resetProgressingTime_append now untold []
  rwa [List.append_nil] at reset

theorem Condition.progressed_iff {now : Instant} {conditions after : List Condition} :
    Condition.Progressed now conditions after ↔ resetProgressingTime now conditions = after := by
  constructor
  · rintro (⟨rfl, others, about⟩ | untold)
    · rw [resetProgressingTime_append now others, resetProgressingTime, if_pos about]
      rfl
    · exact resetProgressingTime_untold now untold
  · rintro rfl
    cases found : findCondition conditions .progressing with
    | none =>
      have untold : ∀ c ∈ conditions, c.type ≠ .progressing := by
        simpa [findCondition] using found
      rw [resetProgressingTime_untold now untold]
      exact .appended untold
    | some c =>
      obtain ⟨type, earlier, later, rfl, others⟩ := List.find?_eq_some_iff_append.mp found
      have others : ∀ q ∈ earlier, q.type ≠ .progressing := by simpa using others
      have about : c.type = .progressing := of_decide_eq_true type
      rw [resetProgressingTime_append now others, resetProgressingTime, if_pos about]
      exact .reset rfl others about

theorem listsNamespaces_relatedObjects (config : Config) :
    ListsNamespaces config (relatedObjects config) := by
  unfold relatedObjects
  dsimp only
  split
  · rename_i same
    exact ⟨[_], rfl, List.pairwise_singleton .., by simp [same]⟩
  · rename_i different
    split
    · rename_i before
      exact ⟨[_, _], rfl, List.pairwise_pair.mpr before, by simp⟩
    · rename_i after
      have order := Std.lt_of_le_of_ne (String.not_lt.mp after) (Ne.symm different)
      exact ⟨[_, _], rfl, List.pairwise_pair.mpr order, by simp [or_comm]⟩

theorem listsNamespaces_iff {config : Config} {objects : List RelatedObject} :
    ListsNamespaces config objects ↔ relatedObjects config = objects := by
  constructor
  · obtain ⟨names, same, ascending, members⟩ := listsNamespaces_relatedObjects config
    rintro ⟨others, rfl, sorted, equal⟩
    rw [same, ascending.eq_of_mem_iff sorted fun name => (members name).trans (equal name).symm]
  · rintro rfl
    exact listsNamespaces_relatedObjects config

theorem required_iff {config : Config} {previous reported required : ClusterOperatorStatus}
    {now : Instant} :
    Required config previous reported now required ↔
      completedStatus config previous reported now = required := by
  constructor
  · rintro ⟨⟨dated, given, conditions⟩, versions, extension, related⟩
    obtain rfl := Condition.forall₂_dated_iff.mp given
    have published : (completedStatus config previous reported now).conditions =
        required.conditions := by
      change (if semanticEq (reported.versions.or previous.versions) previous.versions then _ else _)
        = _
      rw [versions] at conditions
      split at conditions
      · rename_i same
        rw [if_pos same, conditions]
      · rename_i changed
        rw [if_neg changed, Condition.progressed_iff.mp conditions]
    obtain ⟨_, _, _, _⟩ := required
    cases versions
    cases extension
    cases listsNamespaces_iff.mp related
    cases published
    rfl
  · rintro rfl
    refine ⟨⟨_, Condition.forall₂_dated_iff.mpr rfl, ?_⟩, rfl, rfl, listsNamespaces_iff.mpr rfl⟩
    change if semanticEq (reported.versions.or previous.versions) previous.versions then
      (if semanticEq (reported.versions.or previous.versions) previous.versions then _ else _) = _
      else Condition.Progressed _ _ (if semanticEq (reported.versions.or previous.versions)
        previous.versions then _ else _)
    split
    · rfl
    · exact Condition.progressed_iff.mpr rfl

/-! Statuses are compared member by member. -/

namespace ClusterOperatorStatus

theorem bind_unlessEmpty {α : Type} [ToJson α] (values : List α) :
    (unlessEmpty values).bind (normal? {}) = (toJson values).normal? {} := by
  cases values <;> rfl

theorem semanticEq_iff_members {left right : ClusterOperatorStatus} :
    semanticEq left right = true ↔
      semanticEq left.conditions right.conditions = true ∧
      semanticEq left.extension right.extension = true ∧
      semanticEq left.relatedObjects right.relatedObjects = true ∧
      semanticEq left.versions right.versions = true := by
  have shown (s : ClusterOperatorStatus) : said {} [("conditions", unlessEmpty s.conditions),
      ("extension", s.extension), ("relatedObjects", unlessEmpty s.relatedObjects),
      ("versions", s.versions.map toJson)] = [
        ("conditions", (toJson s.conditions).normal? {}),
        ("extension", (toJson s.extension).normal? {}),
        ("relatedObjects", (toJson s.relatedObjects).normal? {}),
        ("versions", (toJson s.versions).normal? {})] := by
    have extension : s.extension.bind (normal? {}) = (toJson s.extension).normal? {} := by
      cases s.extension <;> rfl
    rw [← bind_unlessEmpty, ← extension, ← bind_unlessEmpty, ← bind_toJson]
    rfl
  simp only [semanticEq_iff]
  refine Iff.trans (normal?_record_iff ?distinct rfl) ?_
  case distinct => simp
  rw [shown, shown]
  simp

end ClusterOperatorStatus

theorem semanticEq_mergeStatus (existing required : ClusterOperatorStatus) :
    semanticEq (mergeStatus existing required).value required = true :=
  ClusterOperatorStatus.semanticEq_iff_members.mpr
    ⟨Merged.semanticEq_adopt .., Merged.semanticEq_adopt .., Merged.semanticEq_adopt ..,
      Merged.semanticEq_adopt ..⟩

theorem changed_mergeStatus (existing required : ClusterOperatorStatus) :
    (mergeStatus existing required).changed = !semanticEq existing required := by
  have members : semanticEq existing required = (semanticEq existing.conditions required.conditions &&
      semanticEq existing.extension required.extension &&
      semanticEq existing.relatedObjects required.relatedObjects &&
      semanticEq existing.versions required.versions) := by
    rw [Bool.eq_iff_iff, ClusterOperatorStatus.semanticEq_iff_members]
    simp [and_assoc]
  rw [members]
  simp only [mergeStatus, Merged.changed_adopt, Bool.not_and]
  ac_rfl

end AutoscalerOperator
