import AutoscalerOperator.Proofs.Status.Wording
import AutoscalerOperator.Status.Report

namespace AutoscalerOperator

/-- A report as it is remembered: what it found at which time, and whether it succeeded. -/
structure Report where
  config : Config
  checked : Except Error Bool
  time : Instant
  succeeded : Bool

namespace Report

def gives (r : Report) (type : ConditionType) : Option ConditionStatus :=
  (findCondition (statusOf r.config r.checked).conditions type).map (·.status)

/-! In what follows all reports of a list have succeeded, and the latest one is first. -/

/-- The release of the latest report that was available. -/
def reached : List Report → Option (List OperandVersion)
  | [] => none
  | r :: earlier =>
    match r.checked with
    | .ok true => some [⟨"operator", r.config.releaseVersion⟩]
    | _ => reached earlier

/-- When the run of reports began that give a type the same status as the latest one. A change of
    versions is progress, so it begins a run of its own there. -/
def runStart (type : ConditionType) (latest : Report) : List Report → Instant
  | [] => latest.time
  | previous :: earlier =>
    if latest.gives type = previous.gives type ∧
        (type = .progressing →
          reached (latest :: previous :: earlier) = reached (previous :: earlier)) then
      runStart type previous earlier
    else latest.time

def conditionTypes : List ConditionType := [.available, .progressing, .degraded]

def expected : List Report → List (ConditionType × Option ConditionStatus × Option String)
  | [] => []
  | latest :: earlier => conditionTypes.map fun type =>
    (type, latest.gives type, some (runStart type latest earlier).toText)

/-- Whether a status is the one to expect after some reports. -/
structure Tells (reports : List Report) (status : ClusterOperatorStatus) : Prop where
  versions : status.versions = reached reports
  conditions : status.conditions.map Condition.told = expected reports

theorem reached_ne_nil (reports : List Report) : reached reports ≠ some [] := by
  induction reports with
  | nil => nofun
  | cons r earlier ih =>
    unfold reached
    split
    · simp
    · exact ih

theorem reached_cons (r : Report) (earlier : List Report) :
    reached (r :: earlier) = (statusOf r.config r.checked).versions.or (reached earlier) := by
  obtain ⟨config, checked, time, succeeded⟩ := r
  rcases checked with e | _ | _ <;> rfl

theorem runStart_of_reached_ne {r : Report} {earlier : List Report}
    (changed : reached (r :: earlier) ≠ reached earlier) :
    runStart .progressing r earlier = r.time := by
  cases earlier with
  | nil => rfl
  | cons previous earlier =>
    refine if_neg fun same => changed (same.2 rfl)

theorem conditions_statusOf (r : Report) :
    ∃ a p d, (statusOf r.config r.checked).conditions = [a, p, d] ∧ a.type = .available ∧
      p.type = .progressing ∧ d.type = .degraded ∧ r.gives .available = some a.status ∧
        r.gives .progressing = some p.status ∧ r.gives .degraded = some d.status := by
  obtain ⟨config, checked, time, succeeded⟩ := r
  rcases checked with e | _ | _ <;> exact ⟨_, _, _, rfl, rfl, rfl, rfl, rfl, rfl, rfl⟩

end Report

section

variable {c : Condition} {previous : List Condition} {now : Instant}

theorem told_since_of_none (missing : findCondition previous c.type = none) :
    (c.since previous now).told = (c.type, some c.status, some now.toText) := by
  simp [Condition.since, missing, Condition.told]

theorem told_since_of_some {found : Condition} {status : Option ConditionStatus} {text : String}
    (stands : findCondition previous c.type = some found)
    (told : found.told = (c.type, status, some text)) :
    (c.since previous now).told =
      (c.type, some c.status, some (if status = some c.status then text else now.toText)) := by
  obtain ⟨-, rfl, time⟩ : found.type = c.type ∧ some found.status = status ∧
      found.lastTransitionTime.map Instant.toText = some text := by
    simpa [Condition.told] using told
  obtain ⟨instant, stored, rfl⟩ := Option.map_eq_some_iff.mp time
  by_cases same : found.status = c.status
  · simp [Condition.since, stands, same, stored, Condition.told]
  · simp [Condition.since, stands, same, Condition.told]

end

namespace Report

variable {earlier : List Report} {status : ClusterOperatorStatus}

theorem find?_conditionTypes {type : ConditionType} (known : type ∈ conditionTypes) :
    conditionTypes.find? (· = type) = some type := by
  simp only [conditionTypes, List.mem_cons, List.not_mem_nil, or_false] at known
  rcases known with rfl | rfl | rfl <;> rfl

theorem Tells.findCondition {latest : Report} (tells : Tells (latest :: earlier) status)
    {type : ConditionType} (known : type ∈ conditionTypes) :
    ∃ found, findCondition status.conditions type = some found ∧
      found.told = (type, latest.gives type, some (runStart type latest earlier).toText) := by
  have looked : (AutoscalerOperator.findCondition status.conditions type).map Condition.told =
      (expected (latest :: earlier)).find? (·.1 = type) := by
    rw [← tells.conditions, List.find?_map]
    rfl
  rw [expected, List.find?_map] at looked
  have told := looked.trans (congrArg (Option.map _) (find?_conditionTypes known))
  exact Option.map_eq_some_iff.mp told

theorem Tells.told_since {r : Report} {c : Condition} {type : ConditionType}
    (tells : Tells earlier status) (about : c.type = type) (known : type ∈ conditionTypes)
    (given : r.gives type = some c.status)
    (kept : type = .progressing → reached (r :: earlier) = reached earlier) :
    (c.since status.conditions r.time).told =
      (type, r.gives type, some (runStart type r earlier).toText) := by
  subst about
  cases earlier with
  | nil =>
    have none : status.conditions = [] := by simpa [expected] using tells.conditions
    rw [told_since_of_none (by rw [none]; rfl), given]
    rfl
  | cons latest earlier =>
    obtain ⟨found, stands, told⟩ := tells.findCondition known
    rw [told_since_of_some stands told, given, runStart]
    by_cases same : latest.gives c.type = some c.status
    · rw [if_pos same, if_pos ⟨given.trans same.symm, kept⟩]
    · rw [if_neg same, if_neg fun both => same (both.1.symm.trans given)]

theorem Tells.versions_completed (r : Report) (tells : Tells earlier status) :
    (completedStatus r.config status (statusOf r.config r.checked) r.time).versions =
      reached (r :: earlier) := by
  rw [reached_cons, ← tells.versions]
  rfl

theorem Tells.conditions_completed (r : Report) (tells : Tells earlier status) :
    (completedStatus r.config status (statusOf r.config r.checked) r.time).conditions.map
      Condition.told = expected (r :: earlier) := by
  obtain ⟨a, p, d, conditions, isA, isP, isD, givesA, givesP, givesD⟩ := r.conditions_statusOf
  have versions := tells.versions_completed r
  have toldA := tells.told_since isA (by simp [conditionTypes]) givesA
    fun same => absurd same (by decide)
  have toldD := tells.told_since isD (by simp [conditionTypes]) givesD
    fun same => absurd same (by decide)
  change List.map _ (if semanticEq (completedStatus r.config status (statusOf r.config r.checked)
    r.time).versions status.versions then _ else resetProgressingTime _ _) = _
  rw [versions, tells.versions, conditions]
  by_cases same : reached (r :: earlier) = reached earlier
  · have toldP := tells.told_since isP (by simp [conditionTypes]) givesP fun _ => same
    rw [if_pos ((versions_eq_iff (reached_ne_nil _) (reached_ne_nil _)).mpr same)]
    simp [expected, conditionTypes, toldA, toldP, toldD]
  · rw [if_neg fun equal => same ((versions_eq_iff (reached_ne_nil _) (reached_ne_nil _)).mp equal)]
    have skip : (a.since status.conditions r.time).type ≠ .progressing := by
      change a.type ≠ .progressing
      rw [isA]
      decide
    have here : (p.since status.conditions r.time).type = .progressing := isP
    have toldP : Condition.told { p.since status.conditions r.time with
        lastTransitionTime := some r.time } =
        (.progressing, r.gives .progressing, some (runStart .progressing r earlier).toText) := by
      rw [runStart_of_reached_ne same, givesP, ← isP]
      rfl
    simp only [List.map_cons, List.map_nil, resetProgressingTime, if_neg skip, if_pos here, toldA,
      toldP, toldD, expected, conditionTypes]

theorem recognized_of_conditionTypes {c : Condition} (given : c.type ∈ conditionTypes) :
    c.recognized = c := by
  have known : ∀ type ∈ conditionTypes, type ∈ ConditionType.known := by decide
  rw [Condition.recognized, ConditionType.recognized_of_known c.type (known c.type given)]

theorem recognized_of_expected {conditions : List Condition} {reports : List Report}
    (told : conditions.map Condition.told = expected reports) :
    conditions.map Condition.recognized = conditions := by
  refine Condition.map_recognized fun c member => ?_
  have listed : c.told ∈ expected reports := told ▸ List.mem_map_of_mem member
  cases reports with
  | nil => cases listed
  | cons latest earlier =>
    obtain ⟨type, given, same⟩ := List.mem_map.mp listed
    obtain rfl : type = c.type := congrArg (·.1) same
    exact recognized_of_conditionTypes given

theorem Tells.published (r : Report) (tells : Tells earlier status) :
    Tells (r :: earlier) (mergeStatus status
      (completedStatus r.config status (statusOf r.config r.checked) r.time)).value.recognized where
  versions := by
    have versions := tells.versions_completed r
    have previous := tells.versions
    change (Merged.adopt status.versions _).value = _
    rw [Merged.adopt]
    split
    · rename_i same
      rw [versions, previous] at same
      rw [previous]
      exact (versions_eq_iff (reached_ne_nil _) (reached_ne_nil _)).mp same
    · exact versions
  conditions := by
    have told := tells.conditions_completed r
    change ((Merged.adopt status.conditions _).value.map Condition.recognized).map _ = _
    rw [map_recognized_adopt fun _ _ => Condition.told_of_normal, recognized_of_expected told, told]

end Report

end AutoscalerOperator
