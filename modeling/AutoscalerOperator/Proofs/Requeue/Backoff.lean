import AutoscalerOperator.Requeue.Pass
import Mathlib.Data.UInt

namespace AutoscalerOperator

namespace Requeue

theorem toNat_doublings (attempt : UInt32) :
    (doublings attempt).toNat = min (attempt.toNat - 1) 16 := by
  unfold doublings
  rw [UInt32.toNat_min]
  split
  · rename_i none
    subst none
    rfl
  · rename_i some
    have positive : attempt.toNat ≠ 0 := fun zero => some (UInt32.toNat_inj.mp zero)
    have least : 1 ≤ attempt := UInt32.le_iff_toNat_le.mpr (Nat.one_le_iff_ne_zero.mpr positive)
    rw [UInt32.toNat_sub_of_le _ _ least]
    rfl

theorem doublings_lt (attempt : UInt32) : (doublings attempt).toNat < 32 := by
  rw [toNat_doublings]
  omega

theorem power_doublings_le (attempt : UInt32) : 2 ^ (doublings attempt).toNat ≤ 65536 := by
  have few : (doublings attempt).toNat ≤ 16 := toNat_doublings attempt ▸ Nat.min_le_right _ _
  exact Nat.pow_le_pow_right (by decide) few

theorem toNat_factor (attempt : UInt32) :
    (factor attempt).toNat = 2 ^ (doublings attempt).toNat := by
  have bound := power_doublings_le attempt
  rw [factor, UInt32.toNat_shiftLeft, Nat.mod_eq_of_lt (doublings_lt attempt)]
  change 1 <<< _ % 2 ^ 32 = _
  rw [Nat.one_shiftLeft, Nat.mod_eq_of_lt (by omega)]

theorem product_lt (attempt : UInt32) :
    shortestDelay.toNat * (factor attempt).toNat < UInt64.size := by
  have bound := power_doublings_le attempt
  have one : shortestDelay.toNat = 1 := rfl
  rw [toNat_factor, one, UInt64.size]
  omega

theorem min_power_doublings (n : Nat) : min (2 ^ min n 16) 300 = min (2 ^ n) 300 := by
  rcases Nat.le_total n 16 with few | many
  · rw [Nat.min_eq_left few]
  · have far : 2 ^ 16 ≤ 2 ^ n := Nat.pow_le_pow_right (by decide) many
    rw [Nat.min_eq_right many]
    omega

theorem delay_eq (attempt : UInt32) : delay attempt = min (2 ^ (attempt.toNat - 1)) 300 := by
  have exact : (multiplied shortestDelay (factor attempt)).toNat = 2 ^ (doublings attempt).toNat := by
    have fits := product_lt attempt
    rw [multiplied, if_pos fits, UInt64.toNat_mul, UInt32.toNat_toUInt64, Nat.mod_eq_of_lt fits,
      toNat_factor]
    exact Nat.one_mul _
  rw [delay, UInt64.toNat_min, exact, toNat_doublings]
  exact min_power_doublings _

namespace Failures

variable {failures : Failures} {name other : String}

theorem count_reset (failures : Failures) (name : String) : (failures.reset name).count name = 0 := by
  rw [count, reset, SortedMap.get?_erase, if_pos rfl]
  rfl

theorem toNat_count_record (failures : Failures) (name : String) :
    ((failures.record name).count name).toNat =
      min ((failures.count name).toNat + 1) (UInt32.size - 1) := by
  have bound := (failures.count name).toNat_lt
  rw [count, record, SortedMap.get?_insert, if_pos rfl, Option.getD_some]
  split
  · rename_i full
    rw [full]
    rfl
  · rename_i room
    have below : (failures.count name).toNat ≠ UInt32.size - 1 := fun full =>
      room (UInt32.toNat_inj.mp full)
    rw [UInt32.size] at below ⊢
    rw [UInt32.toNat_add, UInt32.toNat_one]
    omega

theorem count_afterPass_of_ne (failures : Failures) (different : name ≠ other) (succeeded : Bool) :
    (failures.afterPass name succeeded).count other = failures.count other := by
  unfold afterPass
  split
  · rw [count, reset, SortedMap.get?_erase, if_neg different, count]
  · rw [count, record, SortedMap.get?_insert, if_neg different, count]

end Failures

/-- A history of the queue: passes over instances one after another, under any configuration and in
    any surroundings, the latest first, and the failures at its end. -/
inductive History : List Turn → Failures → Prop
  | start : History [] .empty
  | pass {turns : List Turn} {failures : Failures} (earlier : History turns failures) {σ : Type}
    (config : Config) (owner : AutoscalerController) (surroundings : Handler σ) (state : σ) :
    History (((turn config failures owner).run surroundings state).1.1 :: turns)
      ((turn config failures owner).run surroundings state).1.2

/-- The passes over an instance that failed since the last one that succeeded. -/
def failuresInARow (name : String) : List Turn → Nat
  | [] => 0
  | turn :: earlier =>
    if turn.name = name then
      if turn.succeeded then 0 else failuresInARow name earlier + 1
    else failuresInARow name earlier

variable {turns : List Turn} {failures : Failures}

theorem turn_run {σ : Type} (config : Config) (failures : Failures) (owner : AutoscalerController)
    (surroundings : Handler σ) (state : σ) :
    ∃ name succeeded, ((turn config failures owner).run surroundings state).1 =
      (⟨name, succeeded, (failures.afterPass name succeeded).action name succeeded⟩,
        failures.afterPass name succeeded) := by
  let namespaceName := owner.metadata.namespaceName.getD config.watchNamespace
  let result := (reconcile config namespaceName owner.displayName).run surroundings state
  refine ⟨owner.displayName, result.1.toOption.isSome, ?_⟩
  rw [turn, pass, Program.run_bind, Program.run_bind]
  rfl

theorem History.counted (history : History turns failures) (name : String) :
    (failures.count name).toNat = min (failuresInARow name turns) (UInt32.size - 1) := by
  induction history with
  | start => rfl
  | @pass turns failures earlier σ config owner surroundings state ih =>
    obtain ⟨own, succeeded, made⟩ := turn_run config failures owner surroundings state
    rw [made]
    by_cases same : own = name
    · subst same
      cases succeeded with
      | true =>
        rw [Failures.afterPass, if_pos rfl, Failures.count_reset]
        simp [failuresInARow]
      | false =>
        rw [Failures.afterPass, if_neg Bool.false_ne_true, Failures.toNat_count_record, ih]
        simp only [failuresInARow, if_true, Bool.false_eq_true, if_false]
        omega
    · rw [Failures.count_afterPass_of_ne failures same, ih]
      simp [failuresInARow, same]

theorem History.followed {σ : Type} {latest : Turn} {after : Failures}
    (earlier : History turns failures) (config : Config) (owner : AutoscalerController)
    (surroundings : Handler σ) (state : σ)
    (made : ((turn config failures owner).run surroundings state).1 = (latest, after)) :
    History (latest :: turns) after := by
  have passed := earlier.pass config owner surroundings state
  rwa [made] at passed

theorem History.upTo {newer older : List Turn} {failures : Failures}
    (history : History (newer ++ older) failures) : ∃ failures, History older failures := by
  induction newer generalizing failures with
  | nil => exact ⟨failures, history⟩
  | cons turn newer ih =>
    cases history with
    | pass earlier => exact ih earlier

theorem delay_saturated (n : Nat) :
    min (2 ^ (min n (UInt32.size - 1) - 1)) 300 = min (2 ^ (n - 1)) 300 := by
  have size : UInt32.size - 1 = 4294967295 := rfl
  rcases Nat.le_total n (UInt32.size - 1) with few | many
  · rw [Nat.min_eq_left few]
  · have full : 2 ^ 16 ≤ 2 ^ (UInt32.size - 1 - 1) := Nat.pow_le_pow_right (by decide) (by omega)
    have far : 2 ^ 16 ≤ 2 ^ (n - 1) := Nat.pow_le_pow_right (by decide) (by omega)
    rw [Nat.min_eq_right many]
    omega

theorem History.action_eq {turn : Turn} {older : List Turn}
    (history : History (turn :: older) failures) :
    turn.action = if turn.succeeded then .awaitChange
      else .requeue (min (2 ^ (failuresInARow turn.name (turn :: older) - 1)) 300) := by
  have counted := history.counted turn.name
  generalize all : turn :: older = turns at history counted
  cases history with
  | start => cases all
  | @pass turns failures earlier σ config owner surroundings state =>
    obtain ⟨own, succeeded, made⟩ := turn_run config failures owner surroundings state
    rw [made] at all counted
    obtain ⟨rfl, rfl⟩ := List.cons.inj all
    dsimp only [Failures.action] at counted ⊢
    rw [made, delay_eq, counted, delay_saturated]
    rfl

theorem failuresInARow_le_append {name : String} {newer : List Turn} (older : List Turn)
    (failed : ∀ turn ∈ newer, turn.name = name → turn.succeeded = false) :
    failuresInARow name older ≤ failuresInARow name (newer ++ older) := by
  induction newer with
  | nil => exact Nat.le_refl _
  | cons turn newer ih =>
    have later := ih fun other member => failed other (List.mem_cons_of_mem _ member)
    rw [List.cons_append, failuresInARow]
    split
    · rename_i own
      rw [failed turn List.mem_cons_self own, if_neg Bool.false_ne_true]
      exact Nat.le_succ_of_le later
    · exact later

theorem failuresInARow_append_others {name : String} {newer : List Turn} (older : List Turn)
    (others : ∀ turn ∈ newer, turn.name ≠ name) :
    failuresInARow name (newer ++ older) = failuresInARow name older := by
  induction newer with
  | nil => rfl
  | cons turn newer ih =>
    rw [List.cons_append, failuresInARow, if_neg (others turn List.mem_cons_self)]
    exact ih fun other member => others other (List.mem_cons_of_mem _ member)

theorem failuresInARow_of_failed {turn : Turn} (failed : turn.succeeded = false)
    (older : List Turn) :
    failuresInARow turn.name (turn :: older) = failuresInARow turn.name older + 1 := by
  rw [failuresInARow, if_pos rfl, failed, if_neg Bool.false_ne_true]

structure BacksOff (turns : List Turn) (failures : Failures) : Prop where
  counted : ∀ name, (failures.count name).toNat =
    min (failuresInARow name turns) (UInt32.size - 1)
  scheduled : ∀ newer turn older, turns = newer ++ turn :: older →
    turn.action = if turn.succeeded then .awaitChange
      else .requeue (min (2 ^ (failuresInARow turn.name (turn :: older) - 1)) 300)
  /-- As long as the instance does not succeed, it does not wait for less time than before. -/
  grows : ∀ newer later between earlier older,
    turns = newer ++ later :: (between ++ earlier :: older) → later.name = earlier.name →
    later.succeeded = false → earlier.succeeded = false →
    (∀ turn ∈ between, turn.name = earlier.name → turn.succeeded = false) →
    ∃ short long, earlier.action = .requeue short ∧ later.action = .requeue long ∧ short ≤ long
  /-- The first failure after a success is as good as the first one of all. -/
  restarts : ∀ newer failed between last older,
    turns = newer ++ failed :: (between ++ last :: older) → last.name = failed.name →
    failed.succeeded = false → last.succeeded = true →
    (∀ turn ∈ between, turn.name ≠ failed.name) → failed.action = .requeue 1

theorem History.scheduled (history : History turns failures) {newer older : List Turn} {turn : Turn}
    (all : turns = newer ++ turn :: older) :
    turn.action = if turn.succeeded then .awaitChange
      else .requeue (min (2 ^ (failuresInARow turn.name (turn :: older) - 1)) 300) := by
  subst all
  obtain ⟨failures, upTo⟩ := history.upTo
  exact upTo.action_eq

theorem History.follows (history : History turns failures) {newer older : List Turn} {turn : Turn}
    (all : turns = newer ++ turn :: older) :
    turn.action = if turn.succeeded then .awaitChange
      else .requeue (min (2 ^ failuresInARow turn.name older) 300) := by
  rw [history.scheduled all]
  split
  · rfl
  · rename_i failed
    rw [failuresInARow_of_failed (Bool.eq_false_iff.mpr failed), Nat.add_sub_cancel]

theorem History.backsOff (history : History turns failures) : BacksOff turns failures where
  counted := history.counted
  scheduled _ _ _ all := history.scheduled all
  grows newer later between earlier older all same failed failedBefore failedBetween := by
    have early : turns = (newer ++ later :: between) ++ earlier :: older := by simp [all]
    refine ⟨min (2 ^ failuresInARow earlier.name older) 300,
      min (2 ^ failuresInARow later.name (between ++ earlier :: older)) 300, ?_, ?_, ?_⟩
    · rw [history.follows early, failedBefore, if_neg Bool.false_ne_true]
    · rw [history.follows all, failed, if_neg Bool.false_ne_true]
    have fewer : failuresInARow earlier.name older ≤
        failuresInARow later.name (between ++ earlier :: older) := by
      have before := failuresInARow_le_append (earlier :: older) failedBetween
      rw [failuresInARow_of_failed failedBefore] at before
      rw [same]
      omega
    have powers := Nat.pow_le_pow_right Nat.two_pos fewer
    omega
  restarts newer failed between last older all same failing succeeded others := by
    have none : failuresInARow failed.name (between ++ last :: older) = 0 := by
      rw [failuresInARow_append_others _ others, failuresInARow, if_pos same, if_pos succeeded]
    rw [history.follows all, failing, if_neg Bool.false_ne_true, none]
    rfl

def turnsOf (name : String) (turns : List Turn) : List Turn := turns.filter (·.name = name)

def turnsAfter (name : String) : List Bool → List Turn
  | [] => []
  | succeeded :: older =>
    let action := if succeeded then .awaitChange
      else .requeue (min (2 ^ (older.takeWhile (!·)).length) 300)
    ⟨name, succeeded, action⟩ :: turnsAfter name older

theorem failuresInARow_eq (name : String) (turns : List Turn) :
    failuresInARow name turns =
      (((turnsOf name turns).map (·.succeeded)).takeWhile (!·)).length := by
  induction turns with
  | nil => rfl
  | cons turn older ih =>
    unfold turnsOf at ih ⊢
    by_cases own : turn.name = name <;> cases succeeded : turn.succeeded <;>
      simp [failuresInARow, own, succeeded, ih]

theorem History.turnsOf_eq (history : History turns failures) (name : String) :
    turnsOf name turns = turnsAfter name ((turnsOf name turns).map (·.succeeded)) := by
  induction history with
  | start => rfl
  | @pass turns failures earlier σ config owner surroundings state ih =>
    have latest := (History.pass earlier config owner surroundings state).follows
      (List.nil_append _).symm
    generalize ((turn config failures owner).run surroundings state).1.1 = turn at latest ⊢
    by_cases own : turn.name = name
    · have listed : turnsOf name (turn :: turns) = turn :: turnsOf name turns := by
        simp [turnsOf, own]
      rw [listed, List.map_cons, turnsAfter, ← ih, ← failuresInARow_eq, ← own, ← latest]
    · have unlisted : turnsOf name (turn :: turns) = turnsOf name turns := by
        simp [turnsOf, own]
      rw [unlisted]
      exact ih

/-- After a failure an instance is due again in a second, twice as long with each failure in a row up
    to five minutes, as after a success it starts anew. What becomes of other instances makes no
    difference, and no number overflows on the way. -/
theorem backoff_of_history (history : History turns failures) :
    BacksOff turns failures ∧
    (∀ name turns' failures', History turns' failures' →
      (turnsOf name turns).map (·.succeeded) = (turnsOf name turns').map (·.succeeded) →
      turnsOf name turns = turnsOf name turns' ∧ failures.count name = failures'.count name) ∧
    (∀ attempt, (doublings attempt).toNat < 32 ∧
      (factor attempt).toNat = 2 ^ (doublings attempt).toNat ∧
      shortestDelay.toNat * (factor attempt).toNat < UInt64.size) ∧
    ∀ failures name, ((Failures.record failures name).count name).toNat =
      min ((failures.count name).toNat + 1) (UInt32.size - 1) := by
  refine ⟨history.backsOff, fun name turns' failures' other same => ⟨?_, ?_⟩,
    fun attempt => ⟨doublings_lt attempt, toNat_factor attempt, product_lt attempt⟩,
    Failures.toNat_count_record⟩
  · rw [history.turnsOf_eq, other.turnsOf_eq, same]
  · refine UInt32.toNat_inj.mp ?_
    rw [history.counted, other.counted, failuresInARow_eq, failuresInARow_eq, same]

section Interleaved

def failing (e : Error) : Handler Unit := fun c state =>
  match c with
  | .get .. | .create .. | .replace .. | .replaceStatus .. | .publish _ => (.error e, state)
  | .ready | .cancelled => (false, state)
  | .now => (default, state)
  | .sleep _ => ((), state)

def offline : Handler Unit := failing (.plain "offline")

def deserted : Handler Unit := failing (Cluster.notFound .controller "default")

def instanceNamed (name : String) : AutoscalerController := { metadata := { name := some name } }

def interleaved : List Turn :=
  [⟨"default", false, .requeue 2⟩, ⟨"other", false, .requeue 1⟩, ⟨"default", false, .requeue 1⟩,
    ⟨"default", true, .awaitChange⟩, ⟨"default", false, .requeue 1⟩]

theorem history_interleaved :
    History interleaved (SortedMap.ofList [("default", 2), ("other", 1)]) := by
  have failed : History (interleaved.drop 4) (SortedMap.ofList [("default", 1)]) :=
    History.start.followed {} (instanceNamed "default") offline () (by decide +kernel)
  have gone : History (interleaved.drop 3) .empty :=
    failed.followed {} (instanceNamed "default") deserted () (by decide +kernel)
  have again : History (interleaved.drop 2) (SortedMap.ofList [("default", 1)]) :=
    gone.followed {} (instanceNamed "default") offline () (by decide +kernel)
  have other : History (interleaved.drop 1) (SortedMap.ofList [("default", 1), ("other", 1)]) :=
    again.followed { name := "other" } (instanceNamed "other") offline () (by decide +kernel)
  exact other.followed {} (instanceNamed "default") offline () (by decide +kernel)

theorem interleaved_backsOff :
    let failures := SortedMap.ofList [("default", 2), ("other", 1)]
    History interleaved failures ∧ BacksOff interleaved failures :=
  ⟨history_interleaved, (backoff_of_history history_interleaved).1⟩

end Interleaved

end Requeue

end AutoscalerOperator
