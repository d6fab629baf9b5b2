import PageFlow.Proofs.Course
import PageFlow.Proofs.Reporting

/-!
# Attempts

A run attempts the first steps of its flow, one after another. The outcomes, the
numbers of those that passed and failed, and the calls that the session has seen
are all accounts of the same attempts.
-/

namespace PageFlow

open Act

variable {σ : Type} {driver : Driver σ} {context : StepContext}

/-! ## Calls -/

/-- A session is only called, neither launched nor released. -/
def Frame.calling : Frame σ where
  allows before after :=
    ∃ calls : List Call, after.events = before.events ++ calls.map .called
  refl world := ⟨[], by simp⟩
  trans := by
    rintro first second third ⟨calls, events⟩ ⟨later, laterEvents⟩
    refine ⟨calls ++ later, ?_⟩
    rw [laterEvents, events, List.map_append, List.append_assoc]

theorem Frame.calling_of_quiet {before after : World σ}
    (quiet : before.Quiet after) :
    Frame.calling.allows before after :=
  ⟨[], by simp [quiet.events]⟩

theorem Frame.calling_admitsSteps (driver : Driver σ) (directory : Path) :
    Frame.calling.AdmitsSteps driver directory where
  toAdmitsLogging :=
    (quiet_admitsTelling.weaken calling_of_quiet).toAdmitsLogging
  toAdmitsDelays := quiet_admitsDelays.weaken calling_of_quiet
  perform call _ world := ⟨[call], perform_events driver call world⟩

/-! ## Tallies -/

def Tally.of (outcomes : List Outcome) : Tally where
  outcomes := outcomes
  passed := outcomes.countP (·.success)
  failed := outcomes.countP (!·.success)

theorem Tally.of_add (outcomes : List Outcome) (outcome : Outcome) :
    (Tally.of outcomes).add outcome = Tally.of (outcomes ++ [outcome]) := by
  unfold Tally.add Tally.of
  cases success : outcome.success <;> simp [List.countP_append, success]

theorem Tally.passed_add_failed (outcomes : List Outcome) :
    (Tally.of outcomes).passed + (Tally.of outcomes).failed =
      outcomes.length := by
  have total :=
    List.length_eq_countP_add_countP (fun outcome : Outcome => outcome.success)
      (l := outcomes)
  simp [Tally.of, total]

/-! ## Steps -/

/-- The attempt of a step: what came of it, and the calls that it made. -/
structure Attempt where
  outcome : Outcome
  calls : List Call

/-- Steps are attempted one after another, and nothing else happens to the
session. -/
inductive Attempts (driver : Driver σ) (context : StepContext) :
    World σ → List Attempt → World σ → Prop where
  | done {before after : World σ} :
      before.Quiet after →
      Attempts driver context before [] after
  | next {before start finish after : World σ} {attempt : Attempt}
      {later : List Attempt} :
      before.Quiet start →
      execute driver context attempt.outcome.step start =
        (.ok attempt.outcome, finish) →
      finish.events = start.events ++ attempt.calls.map .called →
      Attempts driver context finish later after →
      Attempts driver context before (attempt :: later) after

namespace Attempts

variable {before start after : World σ} {attempts : List Attempt}

theorem quiet_left (quiet : before.Quiet start)
    (attempted : Attempts driver context start attempts after) :
    Attempts driver context before attempts after := by
  cases attempted with
  | done rest => exact .done (Frame.quiet.trans quiet rest)
  | next rest executed events later =>
      exact .next (Frame.quiet.trans quiet rest) executed events later

theorem events (attempted : Attempts driver context before attempts after) :
    after.events = before.events ++ (attempts.flatMap (·.calls)).map
      .called := by
  induction attempted with
  | done quiet => simp [quiet.events]
  | next quiet _ events _ induction => simp [induction, events, quiet.events]

end Attempts

theorem Act.step_of_judged {step : Step} {duration : Int} {outcome : Outcome}
    {result : Except Fault (Option Path)}
    (judged : step.judged duration result = .ok outcome) :
    outcome.step = step := by
  cases result with
  | ok picture =>
      cases judged
      rfl
  | error fault =>
      rw [Step.judged] at judged
      split at judged <;> cases judged
      rfl

theorem Act.step_of_execute {step : Step} {outcome : Outcome}
    {world after : World σ}
    (executed : execute driver context step world = (.ok outcome, after)) :
    outcome.step = step := by
  obtain ⟨_, between, named, _⟩ := bind_eq_ok.mp executed
  obtain ⟨_, begun, ready, _⟩ := bind_eq_ok.mp named
  obtain ⟨duration, finish, _, _, result⟩ :=
    execute_eq driver context ready step
  rw [executed] at result
  have judged : Except.ok outcome = step.judged duration _ :=
    congrArg Prod.fst result
  exact step_of_judged judged.symm

/-- How a run of so many steps may end: with all of them attempted, or, if
failures stop it, with its first failure. -/
def Concludes (stop : Bool) (total : Nat) (outcomes : List Outcome) : Prop :=
  if stop then
    (outcomes.length = total ∧ ∀ outcome ∈ outcomes, outcome.success) ∨
      ∃ earlier last, outcomes = earlier ++ [last] ∧
        (∀ outcome ∈ earlier, outcome.success) ∧ last.success = false
  else outcomes.length = total

theorem Concludes.cons {stop : Bool} {total : Nat} {outcome : Outcome}
    {outcomes : List Outcome} (goes : outcome.success = false → stop = false)
    (later : Concludes stop total outcomes) :
    Concludes stop (total + 1) (outcome :: outcomes) := by
  cases stop with
  | false => exact congrArg (· + 1) later
  | true =>
      have success : outcome.success := by
        cases failure : outcome.success with
        | true => rfl
        | false => cases goes failure
      rcases later with ⟨all, successes⟩ | ⟨earlier, last, split,
        successes, failure⟩
      · exact .inl ⟨congrArg (· + 1) all, by simpa [success] using successes⟩
      · refine .inr ⟨outcome :: earlier, last, ?_, ?_, failure⟩
        · rw [split, List.cons_append]
        · simpa [success] using successes

/-- A step is attempted and told of before the steps behind it are looked at, or
left out. -/
theorem Runner.runSteps_cons_eq_ok {options : RunOptions} {log : Logger}
    {total index : Nat} {step : Step} {steps : List Step} {tally final : Tally}
    {world after : World σ}
    (ended : runSteps driver context options log total index (step :: steps)
      tally world = (.ok final, after)) :
    let stepLog := world.log.withContext log
      [("step_index", .int index), ("action", .text step.action.name)]
    ∃ (attempt : Attempt) (finish told : World σ),
      attempt.outcome.step = step ∧
      execute driver context step world = (.ok attempt.outcome, finish) ∧
      finish.events = world.events ++ attempt.calls.map .called ∧
      tellStep options stepLog index total attempt.outcome finish =
        (.ok (), told) ∧
      finish.Quiet told ∧
      (if !attempt.outcome.success && options.stopOnFailure then do
        Act.log stepLog .info (stopText index total)
        return tally.add attempt.outcome
      else
        runSteps driver context options log total (index + 1) steps
          (tally.add attempt.outcome))
        told = (.ok final, after) := by
  intro stepLog
  rw [runSteps, withContext, ask_bind] at ended
  obtain ⟨outcome, finish, executed, rest⟩ := bind_eq_ok.mp ended
  obtain ⟨_, told, telling, rest⟩ := bind_eq_ok.mp rest
  obtain ⟨calls, events⟩ :=
    (within_execute (Frame.calling_admitsSteps driver _) step).allows executed
  exact ⟨⟨outcome, calls⟩, finish, told, step_of_execute executed, executed,
    events, telling,
    (within_tellStep Frame.quiet_admitsTelling _ _ _ _).allows telling, rest⟩

/-- A run attempts the first of the steps that it is given, and its tally is
their account on top of what came before. -/
theorem Runner.runSteps_attempts {options : RunOptions} {log : Logger}
    {total index : Nat} {steps : List Step} {earlier : List Outcome}
    {tally : Tally} {world after : World σ}
    (ended : runSteps driver context options log total index steps (.of earlier)
      world = (.ok tally, after)) :
    ∃ attempts, Attempts driver context world attempts after ∧
      tally = .of (earlier ++ attempts.map (·.outcome)) ∧
      attempts.map (·.outcome.step) = steps.take attempts.length ∧
      Concludes options.stopOnFailure steps.length
        (attempts.map (·.outcome)) := by
  -- The steps that are left shrink while the account of the earlier ones grows.
  induction steps generalizing index earlier world with
  | nil =>
      cases ended
      refine ⟨[], .done rfl, by simp, rfl, ?_⟩
      unfold Concludes
      split
      · exact .inl ⟨rfl, by simp⟩
      · rfl
  | cons step steps induction =>
      obtain ⟨attempt, finish, told, rfl, executed, events, _, quiet, rest⟩ :=
        runSteps_cons_eq_ok ended
      split at rest
      · rename_i stopped
        obtain ⟨_, last, logged, ended⟩ := bind_eq_ok.mp rest
        cases ended
        have ending : finish.Quiet after :=
          Frame.quiet.trans quiet
            ((Frame.quiet_admitsTelling.log _ _ _).allows logged)
        simp only [Bool.and_eq_true, Bool.not_eq_true'] at stopped
        refine ⟨[attempt], .next rfl executed events (.done ending),
          ?_, rfl, ?_⟩
        · rw [Tally.of_add]
          rfl
        · rw [Concludes, if_pos stopped.2]
          exact .inr ⟨[], attempt.outcome, rfl, by simp, stopped.1⟩
      · rename_i goes
        rw [Tally.of_add] at rest
        obtain ⟨attempts, attempted, account, steps, conclusion⟩ :=
          induction rest
        refine ⟨attempt :: attempts, ?_, ?_, ?_, ?_⟩
        · exact .next rfl executed events (attempted.quiet_left quiet)
        · simpa using account
        · simpa using steps
        · exact conclusion.cons (by simpa using goes)

/-! ## Runs -/

namespace Runner

variable {runner : Runner} {options : RunOptions} {world after : World σ}
  {result : RunResult}

theorem hold_attempts {flow : Flow} {log : Logger} {time : Int}
    (ended : runner.hold driver options flow log time world =
      (.ok result, after)) :
    ∃ attempts start finish duration,
      Attempts driver (runner.contextFor options flow) start attempts finish ∧
      result = resultOf flow (runner.contextFor options flow) duration
        (.of (attempts.map (·.outcome))) ∧
      attempts.map (·.outcome.step) = flow.steps.take attempts.length ∧
      Concludes options.stopOnFailure flow.steps.length
        (attempts.map (·.outcome)) ∧
      start.events = world.events ++
        [.opened (options.headless.getD runner.settings.headless)] ∧
      after.events = finish.events ++ [.closed] := by
  obtain ⟨tally, closed, session, measured⟩ := bind_eq_ok.mp ended
  rw [since, ask_bind] at measured
  cases measured
  obtain ⟨finish, _, steps, _, rfl⟩ := withSession_eq_ok session
  obtain ⟨attempts, attempted, rfl, sequence, conclusion⟩ :=
    runSteps_attempts steps
  exact ⟨attempts, _, finish, _, attempted, rfl, sequence, conclusion, rfl, rfl⟩

/-- A run gives the account of its attempts, which have the session to
themselves. -/
theorem runFlow_attempts {flow : Flow}
    (ended : runner.runFlow driver options flow world = (.ok result, after)) :
    ∃ attempts start finish duration,
      Attempts driver (runner.contextFor options flow) start attempts finish ∧
      result = resultOf flow (runner.contextFor options flow) duration
        (.of (attempts.map (·.outcome))) ∧
      attempts.map (·.outcome.step) = flow.steps.take attempts.length ∧
      Concludes options.stopOnFailure flow.steps.length
        (attempts.map (·.outcome)) ∧
      start.events = world.events ++
        [.opened (options.headless.getD runner.settings.headless)] ∧
      after.events = finish.events ++ [.closed] := by
  rw [runFlow_eq_parts] at ended
  obtain ⟨begun, prepared, preparing, ended⟩ := bind_eq_ok.mp ended
  obtain ⟨held, closed, holding, concluding⟩ := bind_eq_ok.mp ended
  cases result_of_conclude concluding
  have before : world.Quiet prepared :=
    (within_prepare Frame.quiet_admitsTelling _ _ _).allows preparing
  have behind : closed.Quiet after :=
    (quiet_conclude runner options _ _).allows concluding
  rw [← before.events, behind.events]
  exact hold_attempts holding

/-- The document that a run may print at the end says nothing to the session. -/
theorem runSource_of_run {source : FlowSource}
    (ended : runner.run driver options source world = (.ok result, after)) :
    ∃ between,
      runner.runSource driver options source world = (.ok result, between) ∧
      between.Quiet after := by
  obtain ⟨output, printed⟩ := run_eq_printed runner driver options source world
  obtain ⟨same, rfl⟩ := Prod.mk.inj (printed.symm.trans ended)
  exact ⟨_, Prod.ext same rfl, rfl⟩

/-- The result of a run is the account of the steps that it attempted: the first
of its flow, in order. Its numbers count their outcomes, failures end it where
they are to stop it, and the session has seen the calls of the attempts and no
others. -/
theorem run_accounts {source : FlowSource}
    (ended : runner.run driver options source world = (.ok result, after)) :
    ∃ flow attempts start finish,
      loadFlow source world = (.ok flow, world) ∧
      Attempts driver (runner.contextFor options flow) start attempts finish ∧
      result.total = flow.steps.length ∧
      result.steps = attempts.map (·.outcome) ∧
      result.steps.map (·.step) = flow.steps.take result.steps.length ∧
      result.passed = result.steps.countP (·.success) ∧
      result.failed = result.steps.countP (!·.success) ∧
      result.passed + result.failed = result.steps.length ∧
      result.steps.length ≤ flow.steps.length ∧
      (options.stopOnFailure = false →
        result.steps.length = flow.steps.length) ∧
      (options.stopOnFailure = true →
        (result.steps.length = flow.steps.length ∧
          ∀ outcome ∈ result.steps.dropLast, outcome.success) ∨
        ∃ earlier last, result.steps = earlier ++ [last] ∧
          (∀ outcome ∈ earlier, outcome.success) ∧ last.success = false) ∧
      after.events = world.events ++
        .opened (options.headless.getD runner.settings.headless) ::
          (attempts.flatMap (·.calls)).map .called ++ [.closed] := by
  obtain ⟨between, sourced, quiet⟩ := runSource_of_run ended
  obtain ⟨flow, loaded, loading, flowed⟩ := bind_eq_ok.mp sourced
  have same : loaded = world := (congrArg Prod.snd loading).symm
  subst same
  obtain ⟨attempts, start, finish, duration, attempted, rfl, sequence,
      conclusion, opening, closing⟩ := runFlow_attempts flowed
  have outcomes : (Tally.of (attempts.map (·.outcome))).outcomes.length =
      attempts.length := by
    simp [Tally.of]
  have counts := Tally.passed_add_failed (attempts.map (·.outcome))
  have first := congrArg List.length sequence
  refine ⟨flow, attempts, start, finish, loading, attempted, rfl, rfl, ?_, rfl,
    rfl, ?_, ?_, ?_, ?_, ?_⟩
  · simpa [resultOf, Tally.of, Function.comp_def] using sequence
  · simpa [resultOf, Tally.of] using congrArg Int.ofNat counts
  · simp only [List.length_map, List.length_take] at first
    simp only [resultOf, outcomes]
    omega
  · intro goes
    rw [goes] at conclusion
    exact conclusion
  · intro stops
    rw [Concludes, if_pos stops] at conclusion
    refine conclusion.imp_left fun whole => ⟨whole.1, fun outcome member => ?_⟩
    exact whole.2 outcome (List.dropLast_subset _ member)
  · rw [quiet.events, closing, attempted.events, opening]
    simp

/-- A flow whose second of three steps describes no action. -/
private def broken : Flow where
  name := "Broken"
  baseUrl := none
  description := none
  steps :=
    [⟨.waitFor "#a", none, []⟩, .ofReason "Nothing to do" [],
      ⟨.waitFor "#b", none, []⟩]

/-- Where failures stop the run of the broken flow, the third step is not
attempted. -/
theorem run_accounts_broken :
    let runner : Runner := ⟨.rehearsal, .absent, .off⟩
    let options := { RunOptions.none with stopOnFailure := true }
    let world := World.rehearsal .plain ⟨[], []⟩
    ∃ (result : RunResult) (after : World _) (attempts : List Attempt),
      runner.run Script.plain.driver options (.flow broken) world =
        (.ok result, after) ∧
      result.total = 3 ∧ result.steps = attempts.map (·.outcome) ∧
      result.steps.map (·.step) = broken.steps.take 2 ∧
      result.passed = 1 ∧ result.failed = 1 ∧
      after.events = .opened true :: (attempts.flatMap (·.calls)).map .called ++
        [.closed] := by
  intro runner options world
  have absent : runner.recorder.Polite := trivial
  have facts :
      ((runner.run Script.plain.driver options (.flow broken)
        world).1.toOption.map
      fun result => (result.steps.length, result.passed, result.failed)) =
        some (2, 1, 1) := by
    rw [result_of_run absent]
    decide +kernel
  rcases ended : runner.run Script.plain.driver options (.flow broken) world
    with ⟨_ | result, after⟩
  · rw [ended] at facts
    cases facts
  · rw [ended] at facts
    obtain ⟨flow, attempts, _, _, loaded, _, total, steps, sequence, _, _, _, _,
        _, _, events⟩ :=
      run_accounts ended
    have same : broken = flow := Except.ok.inj (congrArg Prod.fst loaded)
    subst same
    simp only [Except.toOption, Option.map_some, Option.some.injEq,
      Prod.mk.injEq] at facts
    rw [facts.1] at sequence
    exact ⟨result, after, attempts, rfl, total, steps, sequence, facts.2.1,
      facts.2.2, events⟩

end Runner

end PageFlow
