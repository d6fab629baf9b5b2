import PageFlow.Proofs.Attempts

/-!
# Runs that return

Once the flow of a run is loaded, its directory for screenshots is made and its
session is launched, only one thing can keep the run from its result: a fault in
releasing the session. Faults of calls are failures of steps, and a recorder
that refuses the record is told of in the log.
-/

namespace PageFlow

open Act

variable {σ α : Type} {driver : Driver σ} {runner : Runner}
  {options : RunOptions} {flow : Flow} {world after : World σ}

theorem Frame.unrecorded_admitsRuns (driver : Driver σ) (directory : Path) :
    (Frame.keeping (World.received : World σ → _)).AdmitsRuns driver .absent
      directory where
  toAdmitsSteps :=
    keeping_admitsSteps (fun _ _ _ _ _ _ _ _ _ => rfl) driver directory
  print := (keeping_admitsTelling fun _ _ _ _ _ => rfl).print
  launch _ := keeping_reply (fun _ _ _ _ => rfl) _ _
  release := keeping_reply (fun _ _ _ _ => rfl) _ _
  submit _ := within_pure _

theorem Act.ready_of_upkeep {act : Act σ α} {result : Except Fault α}
    (kept : act.Within (.upkeep (fun _ => False) world.files.workdir))
    (ended : act world = (result, after)) (ready : world.log.threshold.isSome) :
    after.log.threshold.isSome :=
  (kept.allows ended ⟨rfl, ready, fun _ _ => id⟩).1.ready

namespace Runner

/-- In a session whose calls never ask the program to stop every step that is
attempted has its outcome, and the run its result, if only the session can be
released. -/
theorem hold_of_mild (flow : Flow) (mild : driver.Mild)
    (opens :
      (driver.launch world.clock
        (options.headless.getD runner.settings.headless) world.session).answer =
      .ok ())
    (ready : world.log.threshold.isSome) (log : Logger) (time : Int) :
    ∃ attempts start finish,
      Attempts driver (runner.contextFor options flow) start attempts finish ∧
      attempts.map (·.outcome.step) = flow.steps.take attempts.length ∧
      Concludes options.stopOnFailure flow.steps.length
        (attempts.map (·.outcome)) ∧
      start.events = world.events ++
        [.opened (options.headless.getD runner.settings.headless)] ∧
      finish.received = world.received ∧
      runner.hold driver options flow log time world =
        (match (driver.release finish.clock finish.session).answer with
          | .ok () => .ok (resultOf flow (runner.contextFor options flow)
              (max 0 ((finish.released driver).milliseconds - time))
              (.of (attempts.map (·.outcome))))
          | .error fault =>
              .error (.session fault), finish.released driver) := by
  let opened :=
    world.launched driver (options.headless.getD runner.settings.headless)
  have apart : WritesAside (fun _ => False) opened.files.workdir
      (runner.contextFor options flow).screenshotDir .absent :=
    ⟨fun _ _ => id, nofun⟩
  have logs : opened.LogsAside (fun _ => False) opened.files.workdir :=
    ⟨rfl, ready, fun _ _ => id⟩
  obtain ⟨tally, finish, steps⟩ : ∃ tally finish,
      runSteps driver (runner.contextFor options flow)
      options log flow.steps.length 1 flow.steps .start opened =
        (.ok tally, finish) :=
    runSteps_of_mild mild apart log flow.steps.length 1 flow.steps .start logs
  obtain ⟨attempts, attempted, rfl, sequence, conclusion⟩ :=
    runSteps_attempts steps
  have received : finish.received = opened.received :=
    (within_runSteps (Frame.unrecorded_admitsRuns driver _) _ _ _ _ _).allows
      steps
  have session := withSession_of_launch opens steps
  refine ⟨attempts, opened, finish, attempted, sequence, conclusion,
    rfl, received, ?_⟩
  rw [hold]
  rcases answer : (driver.release finish.clock finish.session).answer
    with fault | _ <;>
    rw [answer] at session
  · rw [bind_of_error session]
  · rw [bind_of_ok session]
    rfl

section Course

variable (runner options) (mild : driver.Mild) (polite : runner.recorder.Polite)
  (creatable :
    (world.files.ensureDirectory
      (options.screenshotDir.getD runner.settings.screenshotDir)).2 = .ok ())
  (opens :
    (driver.launch world.clock (options.headless.getD runner.settings.headless)
      world.session).answer = .ok ()) (ready : world.log.threshold.isSome)

include mild polite creatable opens ready

theorem runFlow_of_mild (flow : Flow) :
    ∃ attempts start finish after,
      Attempts driver (runner.contextFor options flow) start attempts finish ∧
      attempts.map (·.outcome.step) = flow.steps.take attempts.length ∧
      Concludes options.stopOnFailure flow.steps.length
        (attempts.map (·.outcome)) ∧
      after.events = world.events ++
        .opened (options.headless.getD runner.settings.headless) ::
          (attempts.flatMap (·.calls)).map .called ++ [.closed] ∧
      match (driver.release finish.clock finish.session).answer with
      | .ok () =>
          ∃ result,
            runner.runFlow driver options flow world = (.ok result, after) ∧
            result.steps = attempts.map (·.outcome) ∧
            after.received = world.received ++
              runner.recorder.handed
              (result.recordAt (Calendar.ofMoment after.moment))
      | .error fault =>
          runner.runFlow driver options flow world =
            (.error (.session fault), after) ∧
            after.received = world.received := by
  obtain ⟨log, time, begun, preparing, calm⟩ :=
    prepare_of_creatable flow creatable
  have logging :=
    ready_of_upkeep (within_prepare Frame.upkeep_admitsTelling _ _ _)
      preparing ready
  rw [← calm.clock, ← calm.session] at opens
  obtain ⟨attempts, start, finish, attempted, sequence, conclusion, opening,
      unrecorded, holding⟩ :=
    hold_of_mild flow mild opens logging log time
  have closing : (finish.released driver).events = world.events ++
      .opened (options.headless.getD runner.settings.headless) ::
        (attempts.flatMap (·.calls)).map .called ++ [.closed] := by
    change finish.events ++ [.closed] = _
    rw [attempted.events, opening, calm.quiet.events]
    simp
  have received : (finish.released driver).received = world.received :=
    unrecorded.trans calm.received
  rcases answer : (driver.release finish.clock finish.session).answer
    with fault | _ <;>
    rw [answer] at holding
  · refine ⟨attempts, start, finish, finish.released driver, attempted,
      sequence, conclusion, closing, ?_⟩
    rw [answer]
    refine ⟨?_, received⟩
    rw [runFlow_eq_parts, bind_of_ok preparing, bind_of_error holding]
  · obtain ⟨after, concluding, quiet, handed⟩ :=
      conclude_of_polite polite options log
        (resultOf flow (runner.contextFor options flow)
          (max 0 ((finish.released driver).milliseconds - time))
          (.of (attempts.map (·.outcome))))
        (finish.released driver)
    refine ⟨attempts, start, finish, after, attempted, sequence, conclusion,
      quiet.events.trans closing, ?_⟩
    rw [answer]
    rw [received] at handed
    refine ⟨_, ?_, ?_, handed⟩
    · rw [runFlow_eq_parts, bind_of_ok preparing, bind_of_ok holding,
        concluding]
    · rfl

/-- A run whose flow is loaded, whose directory for screenshots can be made and
whose session is launched attempts its steps, and then it comes down to the
release of the session. If that succeeds, the run returns the result of the
attempts and hands one record of it to the recorder, whatever calls have failed
and whatever the recorder does. If it fails, its fault escapes; there is no
result, and no record is handed. -/
theorem run_returns_if_released {source : FlowSource}
    (loaded : loadFlow source world = (.ok flow, world)) :
    ∃ attempts start finish after,
      Attempts driver (runner.contextFor options flow) start attempts finish ∧
      attempts.map (·.outcome.step) = flow.steps.take attempts.length ∧
      Concludes options.stopOnFailure flow.steps.length
        (attempts.map (·.outcome)) ∧
      after.events = world.events ++
        .opened (options.headless.getD runner.settings.headless) ::
          (attempts.flatMap (·.calls)).map .called ++ [.closed] ∧
      match (driver.release finish.clock finish.session).answer with
      | .ok () =>
          ∃ result,
            runner.run driver options source world = (.ok result, after) ∧
            result.steps = attempts.map (·.outcome) ∧
            after.received = world.received ++
              runner.recorder.handed
              (result.recordAt (Calendar.ofMoment after.moment))
      | .error fault =>
          runner.run driver options source world =
            (.error (.session fault), after) ∧
            after.received = world.received := by
  obtain ⟨attempts, start, finish, between, attempted, sequence, conclusion,
      events, ended⟩ :=
    runFlow_of_mild runner options mild polite creatable opens ready flow
  obtain ⟨output, printed⟩ := run_eq_printed runner driver options source world
  have sourced : runner.runSource driver options source world =
      runner.runFlow driver options flow world := bind_of_ok loaded
  rw [sourced] at printed
  refine ⟨attempts, start, finish, { between with output := output }, attempted,
    sequence, conclusion, events, ?_⟩
  cases answer : (driver.release finish.clock finish.session).answer with
  | ok _ =>
      rw [answer] at ended
      obtain ⟨result, ran, steps, received⟩ := ended
      rw [ran] at printed
      exact ⟨result, printed, steps, received⟩
  | error fault =>
      rw [answer] at ended
      obtain ⟨ran, received⟩ := ended
      rw [ran] at printed
      exact ⟨printed, received⟩

end Course

/-- A session whose page has crashed: every call fails. -/
private def crashed : Driver Unit where
  launch _ _ _ := ⟨.ok (), 0, ()⟩
  perform _ _ _ := ⟨.error ⟨"RuntimeError", "Page crashed", none⟩, 0, ()⟩
  release _ _ := ⟨.ok (), 0, ()⟩

/-- A session that is lost when it is to be released. -/
private def lost : Driver Unit :=
  { crashed with release := fun _ _ =>
    ⟨.error ⟨"RuntimeError", "Target closed", none⟩, 0, ()⟩ }

private def keys : Flow :=
  ⟨"Keys", none, none, [⟨.press "Enter", none, []⟩]⟩

private theorem creatable_root (files : FileSystem) :
    (files.ensureDirectory
        (RunOptions.none.screenshotDir.getD
          Settings.rehearsal.screenshotDir)).2 =
      .ok () :=
  congrArg Prod.snd (FileSystem.ensureDirectory_root files)

/-- The page has crashed and the recorder refuses the record, but the run
returns. -/
theorem run_returns_if_released_crashed :
    let refusing :=
      Recorder.custom fun _ _ => some ⟨"OSError", "disk full", none⟩
    let runner : Runner := ⟨.rehearsal, refusing, .off⟩
    let world : World Unit := .before () ⟨[], []⟩
    ∃ result after,
      runner.run crashed .none (.flow keys) world = (.ok result, after) ∧
      result.steps.map (·.step) = keys.steps ∧
      after.received = [result.recordAt (Calendar.ofMoment after.moment)] := by
  intro refusing runner world
  have mild : crashed.Mild := by
    rintro time call state fault ⟨⟩
    rfl
  have polite : refusing.Polite := by
    rintro before record fault ⟨⟩
    rfl
  have loaded : loadFlow (.flow keys) world = (.ok keys, world) := rfl
  have ready : world.log.threshold.isSome := rfl
  obtain ⟨attempts, _, _, after, _, sequence, conclusion, _, result, ran,
      steps, received⟩ :=
    run_returns_if_released runner .none mild polite
      (creatable_root world.files) rfl ready loaded
  have whole : attempts.length = keys.steps.length :=
    (List.length_map _).symm.trans conclusion
  refine ⟨result, after, ran, ?_, received⟩
  rw [steps, List.map_map]
  rw [whole, List.take_length] at sequence
  exact sequence

/-- A fault in releasing the session escapes from the run, and the recorder is
handed nothing. -/
theorem release_fault_escapes :
    let accepting := Recorder.custom fun _ _ => none
    let runner : Runner := ⟨.rehearsal, accepting, .off⟩
    let world : World Unit := .before () ⟨[], []⟩
    let ran := runner.run lost .none (.flow keys) world
    loadFlow (.flow keys) world = (.ok keys, world) ∧
      (world.files.ensureDirectory
        (RunOptions.none.screenshotDir.getD runner.settings.screenshotDir)).2 =
        .ok () ∧
      (∀ time headless state,
        (lost.launch time headless state).answer = .ok ()) ∧
      lost.Mild ∧ accepting.Polite ∧ world.log.threshold.isSome ∧
      ran.1 = .error (.session ⟨"RuntimeError", "Target closed", none⟩) ∧
        ran.2.received = [] := by
  intro accepting runner world ran
  have mild : lost.Mild := by
    rintro time call state fault ⟨⟩
    rfl
  have polite : accepting.Polite := nofun
  have loaded : loadFlow (.flow keys) world = (.ok keys, world) := rfl
  have ready : world.log.threshold.isSome := rfl
  obtain ⟨_, _, _, after, _, _, _, _, failed, received⟩ :=
    runFlow_of_mild runner .none mild polite (creatable_root world.files)
      rfl ready keys
  obtain ⟨output, printed⟩ :=
    run_eq_printed runner lost .none (.flow keys) world
  have ended : ran = (.error (.session ⟨"RuntimeError", "Target closed", none⟩),
      { after with output := output }) := by
    have sourced : runner.runSource lost .none (.flow keys) world =
        runner.runFlow lost .none keys world := bind_of_ok loaded
    rw [sourced, failed] at printed
    exact printed
  rw [ended]
  exact ⟨loaded, creatable_root _, fun _ _ _ => rfl, mild, polite, ready,
    rfl, received⟩

end Runner

end PageFlow
