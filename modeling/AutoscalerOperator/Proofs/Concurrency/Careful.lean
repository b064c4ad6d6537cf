import AutoscalerOperator.Proofs.Concurrency.Clients

namespace AutoscalerOperator

open Kubernetes Program
open Relation (ReflTransGen)

def Call.Updates : Call → Prop
  | .replace .. | .replaceStatus .. => True
  | _ => False

@[simp] theorem not_updates_now : ¬Call.now.Updates := id

@[simp] theorem not_updates_cancelled : ¬Call.cancelled.Updates := id

theorem Call.Reads.not_updates {c : Call} (reads : c.Reads) : ¬c.Updates := by
  cases c <;> simp_all [Call.Reads, Call.Updates]

namespace Exchange

variable {σ : Type}

inductive Updates : Exchange σ → Verb → (kind : Kind) → kind.Object → Except Error kind.Object → Prop
  | replace {kind : Kind} {object : kind.Object} {answer : Except Error kind.Object}
    {before after : σ} :
    Updates ⟨.replace kind object, answer, before, after⟩ .replace kind object answer
  | replaceStatus {kind : Kind} {object : kind.Object} {answer : Except Error kind.Object}
    {before after : σ} :
    Updates ⟨.replaceStatus kind object, answer, before, after⟩ .replaceStatus kind object answer

/-- An exchange by which a program gets to know an object as it is stored. -/
inductive Shows : Exchange σ → (kind : Kind) → ObjectKey → kind.Object → Prop
  | got {kind : Kind} {namespaceName : Option String} {name : String} {object : kind.Object}
    {before after : σ} :
    Shows ⟨.get kind namespaceName name, .ok object, before, after⟩ kind ⟨namespaceName, name⟩ object
  | created {kind : Kind} {key : ObjectKey} {object stored : kind.Object} {before after : σ}
    (keyed : Cluster.keyOf kind stored = .ok key) :
    Shows ⟨.create kind object, .ok stored, before, after⟩ kind key stored

theorem Updates.call {exchange : Exchange σ} {verb : Verb} {kind : Kind} {object : kind.Object}
    {answer : Except Error kind.Object} (updates : exchange.Updates verb kind object answer) :
    exchange.call.Updates := by
  cases updates <;> exact True.intro

end Exchange

/-- What a program that had these exchanges has last seen under a key. -/
def LastSeen (trace : List (Exchange Cluster)) (kind : Kind) (key : ObjectKey)
    (object : kind.Object) : Prop :=
  ∃ first shown rest, trace = first ++ shown :: rest ∧ shown.Shows kind key object ∧
    ∀ later ∈ rest, ∀ other, ¬later.Shows kind key other

theorem LastSeen.append {trace : List (Exchange Cluster)} {kind : Kind} {key : ObjectKey}
    {object : kind.Object} (seen : LastSeen trace kind key object)
    (earlier : List (Exchange Cluster)) : LastSeen (earlier ++ trace) kind key object := by
  obtain ⟨first, shown, rest, rfl, shows, last⟩ := seen
  exact ⟨earlier ++ first, shown, rest, (List.append_assoc ..).symm, shows, last⟩

theorem LastSeen.append_blind {trace : List (Exchange Cluster)} {kind : Kind} {key : ObjectKey}
    {object : kind.Object} (seen : LastSeen trace kind key object)
    {further : List (Exchange Cluster)}
    (blind : ∀ later ∈ further, ∀ other, ¬later.Shows kind key other) :
    LastSeen (trace ++ further) kind key object := by
  obtain ⟨first, shown, rest, rfl, shows, last⟩ := seen
  refine ⟨first, shown, rest ++ further, by simp, shows, fun later member => ?_⟩
  rcases List.mem_append.mp member with member | member
  · exact last later member
  · exact blind later member

/-- How a write on an object may end: what is stored was the very object that was read before, or
    the write had no effect. -/
def Cluster.WrittenUpon (failures : Error → Prop) (before after : Cluster) (verb : Verb)
    (kind : Kind) (key : ObjectKey) (read : kind.Object) : Except Error kind.Object → Prop
  | .ok _ => before.find? kind key = some read
  | .error e => after = before ∧
    (e.isConflict = true ∨ e.isNotFound = true ∨ failures e ∨ (verb, kind) ∈ before.failing)

/-- Whether every write on an object is about what was last seen of it, and did not go through if
    that was no longer what was stored. The program then failed. -/
def Careful (circumstances : Circumstances) (failed : Prop) (trace : List (Exchange Cluster)) :
    Prop :=
  ∀ early exchange late verb kind object answer, trace = early ++ exchange :: late →
    exchange.Updates verb kind object answer →
      ∃ key read, Cluster.keyOf kind object = .ok key ∧ LastSeen early kind key read ∧
        exchange.before.WrittenUpon circumstances.failures exchange.after verb kind key read answer ∧
          (∀ e, answer = .error e → failed)

section

variable {circumstances : Circumstances} {failed : Prop} {trace : List (Exchange Cluster)}

theorem careful_of_no_updates (quiet : ∀ exchange ∈ trace, ¬exchange.call.Updates) :
    Careful circumstances failed trace := by
  rintro early exchange late verb kind object answer rfl updates
  exact absurd updates.call (quiet exchange (by simp))

theorem Careful.imp {other : Prop} (careful : Careful circumstances failed trace)
    (implied : failed → other) : Careful circumstances other trace := by
  intro early exchange late verb kind object answer split updates
  obtain ⟨key, read, keyed, seen, outcome, error⟩ :=
    careful early exchange late verb kind object answer split updates
  exact ⟨key, read, keyed, seen, outcome, fun e refused => implied (error e refused)⟩

theorem Careful.append {further : List (Exchange Cluster)}
    (first : Careful circumstances failed trace) (second : Careful circumstances failed further) :
    Careful circumstances failed (trace ++ further) := by
  intro early exchange late verb kind object answer split updates
  rcases List.append_eq_append_iff.mp split with ⟨between, rfl, rest⟩ | ⟨between, whole, rest⟩
  · obtain ⟨key, read, keyed, seen, outcome⟩ :=
      second between exchange late verb kind object answer rest updates
    exact ⟨key, read, keyed, seen.append trace, outcome⟩
  · cases between with
    | nil =>
      rw [List.append_nil] at whole
      subst whole
      obtain ⟨key, read, keyed, seen, outcome⟩ :=
        second [] exchange late verb kind object answer rest.symm updates
      exact ⟨key, read, keyed, by simpa using seen.append trace, outcome⟩
    | cons head between =>
      obtain ⟨rfl, rfl⟩ := List.cons.inj rest
      exact first early exchange between verb kind object answer whole updates

theorem careful_concat {last : Exchange Cluster} (quiet : ∀ exchange ∈ trace, ¬exchange.call.Updates)
    (careful : ∀ verb kind object answer, last.Updates verb kind object answer →
      ∃ key read, Cluster.keyOf kind object = .ok key ∧ LastSeen trace kind key read ∧
        last.before.WrittenUpon circumstances.failures last.after verb kind key read answer ∧
          (∀ e, answer = .error e → failed)) :
    Careful circumstances failed (trace ++ [last]) := by
  intro early exchange late verb kind object answer split updates
  rcases List.append_eq_append_iff.mp split with ⟨between, rfl, rest⟩ | ⟨between, rfl, rest⟩
  · cases between with
    | nil =>
      obtain ⟨rfl, -⟩ := List.cons.inj rest
      rw [List.append_nil]
      exact careful verb kind object answer updates
    | cons head between => simp at rest
  · cases between with
    | nil =>
      obtain ⟨rfl, -⟩ := List.cons.inj rest
      rw [List.append_nil] at careful
      exact careful verb kind object answer updates
    | cons head between =>
      obtain ⟨rfl, -⟩ := List.cons.inj rest
      exact absurd updates.call (quiet exchange (by simp))

end

namespace Cluster

variable {seen before after : Cluster} {failures : Error → Prop} {verb : Verb} {kind : Kind}
  {key : ObjectKey} {read object : kind.Object} {answer : Except Error kind.Object}
  {result : kind.Object → kind.Object}

theorem writtenUpon_of_yields (sound : seen.Sound) (follows : seen.Follows before)
    (found : seen.find? kind key = some read) (keyed : keyOf kind object = .ok key)
    (same : (kind.metadata object).resourceVersion = (kind.metadata read).resourceVersion)
    (yields : before.Yields failures (before.update verb kind object result) answer after) :
    before.WrittenUpon failures after verb kind key read answer := by
  cases answer with
  | ok stored => exact update_seen follows sound found keyed same yields
  | error e =>
    obtain ⟨unchanged, refused | failed⟩ := yields
    · refine ⟨unchanged, ?_⟩
      rcases update_eq_error keyed refused with failing | rfl | rfl
      · exact .inr (.inr (.inr failing))
      · exact .inr (.inl rfl)
      · exact .inl rfl
    · exact ⟨unchanged, .inr (.inr (.inl failed))⟩

end Cluster

end AutoscalerOperator
