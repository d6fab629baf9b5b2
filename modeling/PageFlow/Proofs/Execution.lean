import PageFlow.Proofs.Rehearsal
import PageFlow.Proofs.Script

/-!
# Outcomes of steps

A step has an outcome whatever its moves come to; only a request to stop is no
outcome. With the script of the step this says all that the execution of a step
does to the session, and what it reports.
-/

namespace PageFlow

open Act

variable {σ : Type} {driver : Driver σ} {context : StepContext}

/-- The outcome of a step of which a result came; a request to stop is handed
on. -/
def Step.judged (step : Step) (duration : Int) :
    Except Fault (Option Path) → Except Fault Outcome
  | .ok picture => .ok ⟨step, true, duration, none, picture.map Path.text⟩
  | .error fault =>
    if fault.exits then .error fault
      else .ok ⟨step, false, duration, some fault.message, none⟩

/-- Around what a step does there are only log records. -/
theorem Act.execute_eq (driver : Driver σ) (context : StepContext)
    {world begun : World σ} (ready : setUpLog world = (.ok (), begun))
    (step : Step) :
    ∃ duration finish,
      0 ≤ duration ∧ (carryOut driver context step begun).2.Quiet finish ∧
      execute driver context step world =
        (step.judged duration (carryOut driver context step begun).1,
          finish) := by
  have named : logger "stepflow.core.actions" world =
      (.ok (Logger.named "stepflow.core.actions"), begun) := by
    rw [logger, bind_of_ok ready]
    rfl
  unfold execute
  rw [bind_of_ok named, withContext, ask_bind, milliseconds, ask_bind]
  rcases result : carryOut driver context step begun
    with ⟨fault | picture, after⟩
  · by_cases exits : fault.exits
    · refine ⟨0, after, Int.le_refl 0, rfl, ?_⟩
      rw [bind_of_error (by rw [settle_of_error result, if_pos exits]),
        Step.judged, if_pos exits]
    · have told :=
        quiet_log (begun.log.withContext (Logger.named "stepflow.core.actions")
          [("action", .text step.action.name)]) .debug
          ("Step failed: " ++ fault.message) after
      refine ⟨max 0 (after.milliseconds - begun.milliseconds), _,
        Int.le_max_left _ _, told, ?_⟩
      rw [bind_of_ok (by rw [settle_of_error result, if_neg exits]), since,
        ask_bind, Step.judged, if_neg exits]
      rfl
  · refine ⟨max 0 (after.milliseconds - begun.milliseconds), after,
      Int.le_max_left _ _, rfl, ?_⟩
    rw [bind_of_ok (settle_of_ok result), since, ask_bind]
    rfl

theorem Act.moment_of_setUpLog {world begun : World σ}
    (ready : setUpLog world = (.ok (), begun)) :
    begun.moment = world.moment := by
  have kept := (Frame.keeping_admitsTelling fun _ _ _ _ _ => rfl :
    (Frame.keeping (World.moment : World σ → Int)).AdmitsTelling).setUpLog world
  rwa [ready] at kept

theorem Act.pace_of_setUpLog {world begun : World σ}
    (ready : setUpLog world = (.ok (), begun)) : begun.pace = world.pace := by
  have kept :=
    (Frame.keeping_admitsTelling fun _ _ _ _ _ => rfl :
      (Frame.keeping (World.pace : World σ →
        (Nat → Int) × Nat)).AdmitsTelling).setUpLog world
  rwa [ready] at kept

theorem Step.exits_of_refusal (reason : String) (raw : List (Value × Value)) :
    (refusal reason raw).exits = false := by
  unfold refusal
  split
  · split <;> rfl
  · rfl

theorem Step.exits_of_verdict {step : Step} {picture : String → Path}
    {answers : List String} {fault : Fault}
    (refused : step.verdict picture answers = .error fault) :
    fault.exits = false := by
  unfold verdict at refused
  split at refused
  · cases refused
  · unfold Verification.examine at refused
    split at refused <;> cases refused
    rfl
  · cases refused
    exact exits_of_refusal _ _
  · cases refused

/-- The calls of a step are those of its script, in order, up to the first one
that fails, and nothing else happens to the session. The step succeeds if all
calls were answered and the verdict on the answers is good. Whatever fails
otherwise gives an outcome with its message, unless it is a request to stop. -/
theorem Act.execute_follows_script (driver : Driver σ) (context : StepContext)
    (step : Step) {world begun : World σ}
    (ready : setUpLog world = (.ok (), begun))
    (creatable : (begun.files.ensureDirectory context.screenshotDir).2 = .ok ())
    (sleepable : step.Sleepable σ context.pacing) :
    let picture label :=
      Screenshot.path context.screenshotDir label
        (Calendar.ofMoment world.moment)
    let script :=
      step.script context.settings context.baseUrl picture
        (world.keyDelays context.pacing)
    ∃ answers made unmade duration result after,
      execute driver context step world = (result, after) ∧
      Recites driver world script answers after ∧
      script = made ++ unmade ∧
      after.events = world.events ++ made.map .called ∧
      0 ≤ duration ∧
      match answers with
      | .ok texts =>
        unmade = [] ∧ texts.length = script.length ∧
          match step.verdict picture texts with
          | .ok path =>
              result = .ok ⟨step, true, duration, none, path.map Path.text⟩
          | .error fault =>
              result = .ok ⟨step, false, duration, some fault.message, none⟩
      | .error fault =>
        (∃ answered call start between, made = answered ++ [call] ∧
          perform driver call start = (.error fault, between)) ∧
          if fault.exits then result = .error fault
          else result = .ok ⟨step, false, duration,
            some fault.message, none⟩ := by
  intro picture script
  obtain ⟨answers, recital, ended⟩ :=
    speaks_carryOut step (isSome_of_setUpLog ready) creatable sleepable
  rw [moment_of_setUpLog ready,
    World.keyDelays_of_pace (pace_of_setUpLog ready)] at recital
  rw [moment_of_setUpLog ready] at ended
  obtain ⟨duration, after, positive, quiet, result⟩ :=
    execute_eq driver context ready step
  have recited : Recites driver world script answers after := by
    have opening := quiet_setUpLog world
    rw [ready] at opening
    exact (recital.quiet_left opening).quiet_right quiet
  obtain ⟨made, unmade, split, events, whole, broken⟩ := recited.made
  refine ⟨answers, made, unmade, duration, _, after, result, recited, split,
    events, positive, ?_⟩
  rw [ended]
  cases answers with
  | ok texts =>
      refine ⟨(whole texts rfl).1, (whole texts rfl).2, ?_⟩
      change match step.verdict picture texts with
        | .ok path => step.judged duration (step.verdict picture texts) = _
        | .error fault => step.judged duration (step.verdict picture texts) = _
      cases verdict : step.verdict picture texts with
      | ok path => rfl
      | error fault =>
          rw [Step.judged, if_neg (by simp [Step.exits_of_verdict verdict])]
  | error fault =>
      refine ⟨broken fault rfl, ?_⟩
      change if fault.exits then step.judged duration (.error fault) = _
        else step.judged duration (.error fault) = _
      by_cases exits : fault.exits
      · rw [if_pos exits, Step.judged, if_pos exits]
      · rw [if_neg exits, Step.judged, if_neg exits]

/-- Two characters are typed into a field that is waited for without a limit of
patience. -/
theorem Act.execute_follows_script_typing :
    let world := World.rehearsal .plain ⟨[], []⟩
    let context : StepContext := ⟨.rehearsal, .off, "", ⟨.root, []⟩⟩
    let step : Step := ⟨.type "#name" "ab", some 0, []⟩
    ∃ answers made unmade after,
      (execute Script.plain.driver context step world).2 = after ∧
      Recites Script.plain.driver world
        [.waitFor "#name" .visible 0, .click "#name", .clear "#name",
          .typeText "#name" "a" 0, .typeText "#name" "b" 0] answers after ∧
      made ++ unmade = [.waitFor "#name" .visible 0, .click "#name",
        .clear "#name", .typeText "#name" "a" 0, .typeText "#name" "b" 0] ∧
      after.events = made.map .called := by
  intro world context step
  have ready : setUpLog world = (.ok (), world) := setUpLog_of_isSome rfl
  have creatable :
      (world.files.ensureDirectory context.screenshotDir).2 = .ok () :=
    congrArg Prod.snd (FileSystem.ensureDirectory_root _)
  obtain ⟨answers, made, unmade, _, result, after, ended, recital,
      split, events, _⟩ :=
    execute_follows_script Script.plain.driver context step ready
      creatable trivial
  refine ⟨answers, made, unmade, after, ?_, recital, split.symm, events⟩
  rw [ended]

end PageFlow
