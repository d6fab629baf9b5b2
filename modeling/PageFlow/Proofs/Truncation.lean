import PageFlow.Proofs.Attempts

/-!
# Stopping early

A run that stops at the first failure is the beginning of the run that goes on.
Up to that failure the two cannot be told apart; behind it the one ends its
session where the other attempts its further steps.
-/

namespace PageFlow

open Act

variable {σ : Type} {driver : Driver σ} {context : StepContext}

/-- How many of some attempts a run makes that stops at the first failure. -/
def Attempt.untilFailure (attempts : List Attempt) : Nat :=
  attempts.findIdx (!·.outcome.success) + 1

namespace Runner

/-- The steps up to the first failure are attempted alike, whether or not the
failure stops the run. -/
theorem runSteps_until_failure {options : RunOptions} {log : Logger}
    {total index : Nat} {steps : List Step} {earlier : List Outcome}
    {tally : Tally} {world after : World σ}
    (ended : runSteps driver context { options with stopOnFailure := false } log
      total index steps (.of earlier) world = (.ok tally, after)) :
    ∃ attempts finish,
      Attempts driver context world attempts after ∧
      tally = .of (earlier ++ attempts.map (·.outcome)) ∧
      Attempts driver context world
        (attempts.take (Attempt.untilFailure attempts)) finish ∧
      runSteps driver context { options with stopOnFailure := true } log
          total index steps
        (.of earlier) world = (.ok (.of (earlier ++
          (attempts.take (Attempt.untilFailure attempts)).map (·.outcome))),
          finish) := by
  induction steps generalizing index earlier world with
  | nil =>
      cases ended
      exact ⟨[], after, .done rfl, by simp, .done rfl, by simp [runSteps]⟩
  | cons step steps induction =>
      obtain ⟨attempt, finish, told, rfl, executed, events, telling,
          quiet, rest⟩ :=
        runSteps_cons_eq_ok ended
      rw [if_neg (by simp), Tally.of_add] at rest
      obtain ⟨attempts, last, attempted, account, kept, stopped⟩ :=
        induction rest
      let stepLog :=
        world.log.withContext log
          [("step_index", .int index),
            ("action", .text attempt.outcome.step.action.name)]
      have telling' :
          tellStep { options with stopOnFailure := true } stepLog index total
          attempt.outcome finish = (.ok (), told) := telling
      refine ⟨attempt :: attempts, ?_⟩
      rw [runSteps, withContext, ask_bind, bind_of_ok executed,
        bind_of_ok telling']
      cases success : attempt.outcome.success with
      | true =>
          refine ⟨last, .next rfl executed events (attempted.quiet_left quiet),
            ?_, ?_, ?_⟩
          · simpa using account
          · simp only [Attempt.untilFailure, List.findIdx_cons, success]
            exact .next rfl executed events (kept.quiet_left quiet)
          · rw [if_neg (by simp), Tally.of_add, stopped]
            simp [Attempt.untilFailure, List.findIdx_cons, success]
      | false =>
          obtain ⟨_, stop, logging⟩ :=
            total_log stepLog .info (stopText index total) told
          have ending : finish.Quiet stop :=
            Frame.quiet.trans quiet
              ((Frame.quiet_admitsTelling.log _ _ _).allows logging)
          refine ⟨stop, .next rfl executed events (attempted.quiet_left quiet),
            ?_, ?_, ?_⟩
          · simpa using account
          · simp only [Attempt.untilFailure, List.findIdx_cons, success]
            exact .next rfl executed events (.done ending)
          · rw [if_pos (by simp), bind_of_ok logging, Tally.of_add]
            simp [Attempt.untilFailure, List.findIdx_cons, success]

/-- What a run that stops at the first failure makes of the result of a run that
goes on, but for the time that it takes. -/
def shorten (result : RunResult) (duration : Int) : RunResult :=
  let kept := result.steps.take (result.steps.findIdx (!·.success) + 1)
  { result with
    steps := kept
    passed := kept.countP (·.success)
    failed := kept.countP (!·.success)
    duration := duration }

/-- In the sessions of two runs that differ in no more than whether they stop,
the same is done up to the first failure. -/
theorem hold_until_failure {runner : Runner} {options : RunOptions}
    {flow : Flow} {log : Logger} {time : Int} {world after : World σ}
    {result : RunResult}
    (releases : ∀ time state, (driver.release time state).answer = .ok ())
    (ended : runner.hold driver { options with stopOnFailure := false } flow log
      time world = (.ok result, after)) :
    ∃ attempts start finish finish' duration,
      Attempts driver (runner.contextFor options flow) start attempts finish ∧
      Attempts driver (runner.contextFor options flow) start
        (attempts.take (Attempt.untilFailure attempts)) finish' ∧
      result.steps = attempts.map (·.outcome) ∧
      start.events = world.events ++
        [.opened (options.headless.getD runner.settings.headless)] ∧
      after.events = finish.events ++ [.closed] ∧
      runner.hold driver { options with stopOnFailure := true } flow
          log time world =
        (.ok (shorten result duration), finish'.released driver) := by
  obtain ⟨tally, closed, session, measured⟩ := bind_eq_ok.mp ended
  rw [since, ask_bind] at measured
  cases measured
  obtain ⟨finish, opens, steps, _, rfl⟩ := withSession_eq_ok session
  obtain ⟨attempts, finish', attempted, rfl, kept, stopped⟩ :=
    runSteps_until_failure steps
  have session' := withSession_of_launch opens stopped
  rw [releases] at session'
  refine ⟨attempts, _, finish, finish',
    max 0 ((finish'.released driver).milliseconds - time), attempted, kept,
    rfl, rfl, rfl, ?_⟩
  rw [hold]
  refine (bind_of_ok session').trans ?_
  rw [since, ask_bind]
  simp only [shorten, resultOf, Tally.of, List.nil_append, List.findIdx_map,
    Function.comp_def, List.map_take, Attempt.untilFailure]
  rfl

/-- A run that stops at the first failure comes to the beginning of what the run
comes to that goes on: the same outcomes up to the first failed one, or all of
them if none failed, and between the beginning and the end of its session the
calls that the whole run made for these steps. The number of steps of the flow
stays the total. -/
theorem run_stops_short {runner : Runner} {options : RunOptions}
    {source : FlowSource} {world after : World σ} {result : RunResult}
    (releases : ∀ time state, (driver.release time state).answer = .ok ())
    (polite : runner.recorder.Polite)
    (ended : runner.run driver { options with stopOnFailure := false } source
      world = (.ok result, after)) :
    ∃ flow attempts start finish finish' duration after',
      loadFlow source world = (.ok flow, world) ∧
      runner.run driver { options with stopOnFailure := true } source world =
        (.ok (shorten result duration), after') ∧
      result.steps = attempts.map (·.outcome) ∧
      Attempts driver (runner.contextFor options flow) start attempts finish ∧
      Attempts driver (runner.contextFor options flow) start
        (attempts.take (Attempt.untilFailure attempts)) finish' ∧
      after.events = world.events ++
        .opened (options.headless.getD runner.settings.headless) ::
          (attempts.flatMap (·.calls)).map .called ++ [.closed] ∧
      after'.events = world.events ++
        .opened (options.headless.getD runner.settings.headless) ::
          ((attempts.take (Attempt.untilFailure attempts)).flatMap
            (·.calls)).map .called ++ [.closed] := by
  obtain ⟨between, sourced, quiet⟩ := runSource_of_run ended
  obtain ⟨flow, loaded, loading, flowed⟩ := bind_eq_ok.mp sourced
  have same : loaded = world := (congrArg Prod.snd loading).symm
  subst same
  rw [runFlow_eq_parts] at flowed
  obtain ⟨⟨log, time⟩, begun, preparing, flowed⟩ := bind_eq_ok.mp flowed
  obtain ⟨held, closed, holding, concluding⟩ := bind_eq_ok.mp flowed
  cases result_of_conclude concluding
  have quietly : closed.Quiet between :=
    (quiet_conclude runner _ log _).allows concluding
  have begins : loaded.Quiet begun :=
    (within_prepare Frame.quiet_admitsTelling _ _ _).allows preparing
  obtain ⟨attempts, start, finish, finish', duration, attempted, kept, outcomes,
      opening, closing, stopped⟩ := hold_until_failure releases holding
  obtain ⟨after', concluding', quietly'⟩ :=
    conclude_eq polite
      { options with stopOnFailure := true } log (shorten result duration)
      (finish'.released driver)
  have preparing' :
      runner.prepare { options with stopOnFailure := true } flow loaded =
      (.ok (log, time), begun) := preparing
  have flowed' :
      runner.runSource driver { options with stopOnFailure := true }
        source loaded =
      (.ok (shorten result duration), after') := by
    rw [runSource, bind_of_ok loading, runFlow_eq_parts, bind_of_ok preparing',
      bind_of_ok stopped, concluding']
  obtain ⟨output, printed⟩ :=
    run_eq_printed runner driver { options with stopOnFailure := true }
      source loaded
  rw [flowed'] at printed
  refine ⟨flow, attempts, start, finish, finish', duration, _, loading, printed,
    outcomes, attempted, kept, ?_, ?_⟩
  · rw [quiet.events, quietly.events, closing, attempted.events, opening,
      begins.events]
    simp
  · change after'.events = _
    rw [quietly'.events]
    change finish'.events ++ [.closed] = _
    rw [kept.events, opening, begins.events]
    simp

/-- A page on which clicks fail. -/
private def stuck : Script :=
  { Script.plain with
    failures := [⟨"click", none, none, ⟨"RuntimeError", "boom", none⟩⟩] }

/-- A flow with a click between two other steps. -/
private def clicking : Flow :=
  ⟨"Clicking", none, none,
    [⟨.waitFor "#a", none, []⟩, ⟨.click "#b", none, []⟩,
      ⟨.press "Enter", none, []⟩]⟩

/-- The key behind the failed click is not pressed, and nothing else changes. -/
theorem run_stops_short_stuck :
    let runner : Runner := ⟨.rehearsal, .absent, .off⟩
    let world := World.rehearsal stuck ⟨[], []⟩
    ∃ result after duration after',
      runner.run stuck.driver { RunOptions.none with stopOnFailure := false }
          (.flow clicking) world =
        (.ok result, after) ∧
      result.steps.length = 3 ∧
      runner.run stuck.driver { RunOptions.none with stopOnFailure := true }
          (.flow clicking) world =
        (.ok (shorten result duration), after') ∧
      (shorten result duration).steps = result.steps.take 2 ∧
      (shorten result duration).total = 3 := by
  intro runner world
  have absent : runner.recorder.Polite := trivial
  have facts :
      ((runner.run stuck.driver { RunOptions.none with stopOnFailure := false }
      (.flow clicking) world).1.toOption.map fun result =>
        (result.steps.length, result.steps.findIdx (!·.success),
          result.total)) =
          some (3, 1, 3) := by
    rw [result_of_run absent]
    decide +kernel
  rcases ended : runner.run stuck.driver
    { RunOptions.none with stopOnFailure := false }
    (.flow clicking) world with ⟨_ | result, after⟩
  · rw [ended] at facts
    cases facts
  · rw [ended] at facts
    simp only [Except.toOption, Option.map_some, Option.some.injEq,
      Prod.mk.injEq] at facts
    obtain ⟨_, _, _, _, _, duration, after', _, stopped, _⟩ :=
      run_stops_short (fun _ _ => rfl) absent ended
    refine ⟨result, after, duration, after', rfl, facts.1, stopped,
      ?_, facts.2.2⟩
    rw [shorten, facts.2.1]

end Runner

end PageFlow
