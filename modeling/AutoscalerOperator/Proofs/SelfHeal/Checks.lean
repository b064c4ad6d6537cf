import AutoscalerOperator.Proofs.SelfHeal.Once

namespace AutoscalerOperator

open Kubernetes Program Cluster

/-- Whether a namespace is stored as another one with its mark: apart from its version and its
    generation nothing else is new. -/
structure Kubernetes.Namespace.StoredMarked (space stored : Namespace) : Prop where
  marked : stored.metadata.annotation? createdDefaultAnnotation = some "true"
  annotations : ∀ key, key ≠ createdDefaultAnnotation →
    stored.metadata.annotation? key = space.metadata.annotation? key
  rest : { stored with metadata := { stored.metadata with
    annotations := space.metadata.annotations
    resourceVersion := space.metadata.resourceVersion
    generation := space.metadata.generation } } = space

def Cluster.withDefault (config : Config) (cluster : Cluster) : Cluster :=
  let object := AutoscalerController.defaultInstance config.name config.watchNamespace
  cluster.write .controller ⟨some config.watchNamespace, config.name⟩
    (cluster.created .controller object)

/-- What becomes of the default instance when it is looked after once, whatever fails on the way. -/
structure HealsOnce (config : Config) (start : Cluster) (checks : List (Exchange Cluster))
    (final : Cluster) : Prop where
  /-- At least the first of these calls is made, and each of them once at most. -/
  order : checks ≠ [] ∧ ∃ space : Namespace, checks.map (·.call) <+:
    [config.readInstance, config.readNamespace, config.createInstance, .replace .ns space.marked]
  unchanged : (∀ exchange ∈ checks, exchange.call ≠ config.createInstance) → final = start
  /-- An instance is created where none was found, and no mark that says that there was one. -/
  creation : ∀ answer before after, ⟨config.createInstance, answer, before, after⟩ ∈ checks →
    ∃ missing watched late,
      checks = ⟨config.readInstance, .error missing, start, start⟩ ::
        ⟨config.readNamespace, watched, start, start⟩ ::
        ⟨config.createInstance, answer, start, after⟩ :: late ∧
      missing.isNotFound = true ∧ watched.toOption.any isMarked = false ∧
      (∀ space, watched = .ok space →
        start.find? .ns ⟨none, config.watchNamespace⟩ = some space) ∧
      (∀ stored, answer = .ok stored → after = start.withDefault config) ∧
      (∀ e, answer = .error e → after = start ∧ (e.isAlreadyExists = false → late = [])) ∧
      (late = [] → final = after)
  /-- The mark is the last thing that is written, on the namespace as it is stored. -/
  marking : ∀ object answer before after, ⟨.replace .ns object, answer, before, after⟩ ∈ checks →
    ∃ missing space created,
      checks = [⟨config.readInstance, .error missing, start, start⟩,
        ⟨config.readNamespace, .ok space, start, start⟩,
        ⟨config.createInstance, created, start, before⟩,
        ⟨.replace .ns object, answer, before, final⟩] ∧
      start.find? .ns ⟨none, config.watchNamespace⟩ = some space ∧ object = space.marked ∧
      (∀ e, created = .error e → e.isAlreadyExists = true) ∧
      (before = start ∨ before = start.withDefault config) ∧
      (∀ stored, answer = .ok stored → space.StoredMarked stored ∧
        final = before.write .ns ⟨none, config.watchNamespace⟩ stored) ∧
      ∀ e, answer = .error e → final = before

section

variable {circumstances : Circumstances} {config : Config} {start final : Cluster}
  {trace : List (Exchange Cluster)} {result : Except Error Unit}

theorem storedMarked_replaced (cluster : Cluster) (space : Namespace) :
    space.StoredMarked (cluster.replaced .ns space space.marked) := by
  have annotated (key : String) :
      (cluster.replaced .ns space space.marked : Namespace).metadata.annotation? key =
        if createdDefaultAnnotation = key then some "true" else space.metadata.annotation? key :=
    space.metadata.annotation?_annotate createdDefaultAnnotation "true" key
  constructor
  · exact (annotated _).trans (if_pos rfl)
  · intro key other
    exact (annotated key).trans (if_neg other.symm)
  · simp [replaced, Namespace.marked, Kind.withMetadata, Kind.metadata, Kind.withStatusOf,
      ObjectMeta.annotate]

theorem answers_createInstance {answer : Except Error AutoscalerController} {after : Cluster}
    (answered : (closedWorld circumstances).answers config.createInstance start answer after) :
    (∀ stored, answer = .ok stored → after = start.withDefault config) ∧
      ∀ e, answer = .error e → after = start := by
  constructor
  · rintro stored rfl
    obtain ⟨key, keyed, -, -, rfl⟩ := create_eq_ok answered
    cases keyed
    rfl
  · rintro e rfl
    exact answered.1

theorem answers_replace_marked {space stored : Namespace} {name : String}
    {before after : Cluster} (names : ObjectKey.Names ⟨none, name⟩ .ns space)
    (found : before.find? .ns ⟨none, name⟩ = some space)
    (answered : (closedWorld circumstances).answers (.replace .ns space.marked) before (.ok stored)
      after) : space.StoredMarked stored ∧ after = before.write .ns ⟨none, name⟩ stored := by
  obtain ⟨key, existing, keyed, stands, -, rfl, rfl⟩ := update_eq_ok answered
  obtain ⟨unspaced, named⟩ := names
  obtain ⟨own, called⟩ := (keyOf_eq_ok_iff _).mp keyed
  have here : key = ⟨none, name⟩ := by
    obtain ⟨namespaceName, text⟩ := key
    cases own.symm.trans unspaced
    cases (congrArg (·.getD "") called).symm.trans named
    rfl
  subst here
  cases found.symm.trans stands
  exact ⟨storedMarked_replaced before space, rfl⟩

theorem HealRun.healsOnce (keyed : start.Keyed)
    (run : HealRun circumstances config start trace result final) :
    HealsOnce config start trace final where
  order := by
    cases run with
    | found | unread | spared | refused | unseen => exact ⟨nofun, default, by simp⟩
    | @marking missing space => exact ⟨nofun, space, by simp⟩
  unchanged := by
    cases run <;> simp
  creation answer before after member := by
    cases run with
    | found | unread | spared => simp at member
    | @refused missing e watched absent seen unmarked failed =>
      obtain ⟨rfl, rfl, rfl⟩ : answer = .error e ∧ before = start ∧ after = start := by
        simpa using member
      refine ⟨missing, watched, [], rfl, absent, unmarked, ?_, ?_, ?_, fun _ => rfl⟩
      · rintro space rfl
        exact (answers_get_ok seen).1
      · rintro stored ⟨⟩
      · exact fun _ _ => ⟨rfl, fun _ => rfl⟩
    | @unseen missing e told created absent seen answered stands =>
      obtain ⟨rfl, rfl, rfl⟩ : answer = told ∧ before = start ∧ after = final := by
        simpa using member
      obtain ⟨made, failed⟩ := answers_createInstance answered
      refine ⟨missing, .error e, [], rfl, absent, rfl, ?_, made, ?_, fun _ => rfl⟩
      · rintro space ⟨⟩
      · exact fun e told => ⟨failed e told, fun _ => rfl⟩
    | @marking missing space told _ created final absent seen unmarked answered stands =>
      obtain ⟨rfl, rfl, rfl⟩ : answer = told ∧ before = start ∧ after = created := by
        simpa using member
      obtain ⟨made, failed⟩ := answers_createInstance answered
      refine ⟨missing, .ok space, [_], rfl, absent, unmarked, ?_, made, fun e told => ?_, by simp⟩
      · rintro _ ⟨⟩
        exact (answers_get_ok seen).1
      · exact ⟨failed e told, fun clear => by cases clear.symm.trans (stands e told)⟩
  marking object answer before after member := by
    cases run with
    | found | unread | spared | refused | unseen => simp at member
    | @marking missing space created told _ _ absent seen unmarked answered stands written =>
      obtain ⟨rfl, rfl, rfl, rfl⟩ :
          object = space.marked ∧ answer = told ∧ before = _ ∧ after = final := by
        simpa using member
      obtain ⟨found, -⟩ := answers_get_ok seen
      have same : before.find? .ns ⟨none, config.watchNamespace⟩ = some space :=
        (find?_answers (by simp [Call.writes?]) answered).trans found
      have reached : before = start ∨ before = start.withDefault config := by
        obtain ⟨made, failed⟩ := answers_createInstance answered
        cases created with
        | ok stored => exact .inr (made stored rfl)
        | error e => exact .inl (failed e rfl)
      refine ⟨missing, space, created, rfl, found, rfl, stands, reached, ?_, ?_⟩
      · rintro stored rfl
        exact answers_replace_marked (keyed _ _ _ found) same written
      · rintro e rfl
        exact written.1

/-- The default instance is looked after once, when the API is first reached, or else not at all. -/
theorem default_instance_healed_once {interval : Nat} (keyed : start.Keyed)
    (run : (ensureDefaultInstance config interval).Runs (closedWorld circumstances) start trace ()
      final) :
    (trace = unreached interval start 60 ∧ final = start) ∨
      ∃ polls checks, polls < 60 ∧
        trace = unreached interval start polls ++ polled interval true start ++ checks ∧
        HealsOnce config start checks final := by
  rcases runs_healWithin_polls run with waited | ⟨polls, checks, result, within, split, heals⟩
  · exact .inl waited
  · exact .inr ⟨polls, checks, within, split, (healRun_of_runs heals).healsOnce keyed⟩

end

theorem healed_at_third_poll :
    let program := ensureDefaultInstance { watchNamespace := "here" } 1000
    let s : Simulation := { Simulation.spaced with unreadyPolls := 2 }
    s.cluster.Keyed ∧ ∃ polls checks, polls < 60 ∧
      s.exchanges program =
        unreached 1000 s.cluster polls ++ polled 1000 true s.cluster ++ checks ∧
      HealsOnce { watchNamespace := "here" } s.cluster checks
        (program.run Simulation.handle s).2.cluster := by
  intro program s
  have keyed : s.cluster.Keyed := keyed_empty.insert .ns { metadata := { name := "here" } }
  refine ⟨keyed, ?_⟩
  rcases default_instance_healed_once keyed (s.runs program) with ⟨waited, -⟩ | healed
  · have calls : (s.exchanges program).length = 10 := rfl
    rw [waited] at calls
    cases calls
  · exact healed

end AutoscalerOperator
