import PageFlow.Proofs.Execution
import PageFlow.Proofs.OwnTags
import PageFlow.Proofs.Upkeep

/-!
# Runs that complete

With a session that opens and closes, and that never asks the program to stop, a
run of a flow has a result: whatever else goes wrong is the failure of a step,
or is told and passed over.
-/

namespace PageFlow

variable {σ α β ε : Type}

/-- No call asks the program to stop. -/
def Driver.Mild (driver : Driver σ) : Prop :=
  ∀ time call state fault,
    (driver.perform time call state).answer = .error fault → fault.exits = false

/-- Sessions open and close, and no call asks the program to stop. -/
structure Driver.Obliging (driver : Driver σ) : Prop where
  opens : ∀ time headless state,
    (driver.launch time headless state).answer = .ok ()
  answers : ∀ time call state fault,
    (driver.perform time call state).answer = .error fault → fault.exits = false
  closes : ∀ time state, (driver.release time state).answer = .ok ()

namespace Act

/-- An act that always gives a value. -/
def Total (act : Act σ α) : Prop :=
  ∀ world, ∃ value after, act world = (.ok value, after)

/-- An act that never asks the program to stop. -/
def Mild (act : Act σ α) : Prop :=
  ∀ world fault after, act world = (.error fault, after) → fault.exits = false

/-! ## Building acts -/

theorem total_pure (value : α) : (pure value : Act σ α).Total :=
  fun world => ⟨value, world, rfl⟩

theorem total_ask (f : World σ → α) : (ask f).Total :=
  fun world => ⟨f world, world, rfl⟩

theorem total_change (f : World σ → World σ) : (change f).Total :=
  fun world => ⟨(), f world, rfl⟩

theorem total_bind {act : Act σ α} {next : α → Act σ β} (first : act.Total)
    (second : ∀ value, (next value).Total) : (act >>= next).Total := by
  intro world
  obtain ⟨value, between, done⟩ := first world
  rw [bind_of_ok done]
  exact second value between

theorem Total.mild {act : Act σ α} (total : act.Total) : act.Mild := by
  intro world fault after failed
  obtain ⟨value, between, done⟩ := total world
  rw [done] at failed
  cases failed

theorem mild_fail {fault : Fault} (mild : fault.exits = false) :
    (fail fault : Act σ α).Mild := by
  rintro world _ after ⟨⟩
  exact mild

theorem mild_bind {act : Act σ α} {next : α → Act σ β} (first : act.Mild)
    (second : ∀ value, (next value).Mild) : (act >>= next).Mild := by
  intro world fault after failed
  rcases result : act world with ⟨raised | value, between⟩
  · rw [bind_of_error result] at failed
    cases failed
    exact first world _ _ result
  · rw [bind_of_ok result] at failed
    exact second value between fault after failed

theorem mild_ensuring {act : Act σ α} {last : Act σ Unit} (first : act.Mild)
    (second : last.Mild) : (ensuring act last).Mild := by
  intro world fault after failed
  unfold ensuring at failed
  rcases result : act world with ⟨outcome, between⟩
  rcases ending : last between with ⟨raised | _, finish⟩ <;>
    simp only [result, ending] at failed
  · cases failed
    exact second between _ _ ending
  · cases failed
    exact first world _ _ result

theorem total_settle {act : Act σ α} (mild : act.Mild) :
    (settle act).Total := by
  intro world
  rcases result : act world with ⟨fault | value, after⟩
  · rw [settle_of_error result,
      if_neg (by simp [mild world fault after result])]
    exact ⟨_, _, rfl⟩
  · rw [settle_of_ok result]
    exact ⟨_, _, rfl⟩

/-! ## Telling -/

theorem total_log (logger : Logger) (level : LogLevel) (message : String) :
    (log logger level message : Act σ Unit).Total :=
  total_change _

theorem total_print (text : String) : (print text : Act σ Unit).Total :=
  total_change _

theorem mild_settings : (settings : Act σ Settings).Mild := by
  intro world fault after failed
  unfold settings at failed
  split at failed
  · cases failed
  · split at failed <;> cases failed
    rfl

theorem mild_ensureDirectory (path : Path) :
    (ensureDirectory path : Act σ Unit).Mild := by
  intro world fault after failed
  unfold ensureDirectory at failed
  split at failed <;> cases failed
  rfl

theorem mild_setUpLog : (setUpLog : Act σ Unit).Mild := by
  refine mild_bind (total_ask _).mild fun log => ?_
  split
  · refine mild_bind mild_settings fun chosen => ?_
    split
    · exact mild_bind (mild_ensureDirectory _) fun _ => (total_change _).mild
    · exact (total_change _).mild
  · exact (total_pure _).mild

theorem mild_logger (name : String) : (logger name : Act σ Logger).Mild :=
  mild_bind mild_setUpLog fun _ => (total_pure _).mild

end Act

theorem Runner.total_report (options : RunOptions) {parts : List Markup.Part}
    (flat : Markup.Flat parts) : (report options parts : Act σ Unit).Total := by
  unfold report
  split
  · exact Act.total_pure _
  · obtain ⟨text, printing⟩ := printReport_eq (σ := σ) flat
    rw [printing]
    exact Act.total_print text

theorem Runner.total_tellStep (options : RunOptions) (log : Logger)
    (index total : Nat) (outcome : Outcome) :
    (tellStep options log index total outcome : Act σ Unit).Total := by
  have lines := Report.flat_stepLines outcome index
  unfold tellStep
  split
  · exact Act.total_bind (Act.total_log _ _ _) fun _ => total_report _ lines
  · exact total_report _ lines

/-! ## Steps -/

namespace Act

variable {driver : Driver σ} {context : StepContext}

theorem mild_nap (seconds : Decimal.Binary64) :
    (nap seconds : Act σ Unit).Mild := by
  intro world fault after failed
  unfold nap at failed
  dsimp only at failed
  split at failed
  · cases failed
    rfl
  · split at failed <;> cases failed
    rfl

theorem mild_sleep (ms : Decimal.Binary64) : (sleep ms : Act σ Unit).Mild := by
  unfold sleep
  split
  · exact mild_nap _
  · exact (total_change _).mild

theorem mild_sleepWhole (ms : Int) : (sleepWhole ms : Act σ Unit).Mild := by
  unfold sleepWhole
  split
  · exact (total_change _).mild
  · split
    · exact mild_fail rfl
    · exact mild_nap _

theorem total_delay (enabled : Bool) (least most : Int) :
    (delay enabled least most : Act σ Int).Total := by
  have drawing : (draw : Act σ Int).Total := fun world => ⟨_, _, rfl⟩
  cases enabled with
  | true => exact total_bind drawing fun _ => total_pure _
  | false => exact total_pure _

theorem mild_writeFile (path : Path) (data : List UInt8) :
    (writeFile path data : Act σ Unit).Mild := by
  intro world fault after failed
  unfold writeFile at failed
  split at failed <;> cases failed
  rfl

theorem mild_perform (mild : driver.Mild) (call : Call) :
    (perform driver call).Mild := by
  refine mild_bind ?_ fun answer => ?_
  · intro world fault after failed
    unfold reply at failed
    dsimp only at failed
    split at failed
    · cases failed
    · rename_i raised
      cases failed
      exact mild _ _ _ _ raised
  · cases call with
    | screenshot path =>
        exact mild_bind (mild_writeFile _ _) fun _ => (total_pure _).mild
    | _ => exact (total_pure _).mild

theorem mild_capture (mild : driver.Mild) (directory : Path) (label : String)
    (time : Option DateTime) : (capture driver directory label time).Mild :=
  mild_bind (mild_logger _) fun _ => mild_bind (total_ask _).mild fun _ =>
    mild_bind (mild_ensureDirectory _) fun _ =>
      mild_bind (mild_perform mild _) fun _ =>
    mild_bind (total_log _ _ _).mild fun _ => (total_pure _).mild

theorem mild_makeMove (mild : driver.Mild) (move : Move) :
    (makeMove driver context move).Mild := by
  cases move with
  | call call =>
      exact mild_bind (mild_perform mild _) fun _ => (total_pure _).mild
  | pause =>
      exact mild_bind (total_delay _ _ _).mild fun _ =>
        mild_bind (mild_sleepWhole _) fun _ => (total_pure _).mild
  | key locator character =>
      exact mild_bind (total_delay _ _ _).mild fun _ =>
        mild_bind (mild_perform mild _) fun _ => (total_pure _).mild
  | picture label =>
      exact mild_bind (mild_capture mild _ _ _) fun _ => (total_pure _).mild
  | check locator expected =>
      refine mild_bind (mild_perform mild _) fun found => ?_
      split
      · exact (total_pure _).mild
      · exact mild_fail rfl
  | rest ms => exact mild_bind (mild_sleep _) fun _ => (total_pure _).mild
  | refuse reason raw =>
      rw [makeMove, refuse_eq]
      exact mild_fail (Step.exits_of_refusal _ _)

theorem mild_makeMoves (mild : driver.Mild) (moves : List Move) :
    (makeMoves driver context moves).Mild := by
  induction moves with
  | nil => exact (total_pure _).mild
  | cons move moves induction =>
      exact mild_bind (mild_makeMove mild move) fun _ =>
        mild_bind induction fun _ =>
        (total_pure _).mild

theorem mild_timed {act : Act σ α} (inner : act.Mild) (level : LogLevel)
    (label : String) :
    (timed level label act).Mild := by
  refine mild_bind (mild_logger _) fun _ =>
    mild_bind (total_ask _).mild fun _ =>
    mild_ensuring inner ?_
  exact mild_bind (total_ask _).mild fun _ => (total_log _ _ _).mild

theorem mild_carryOut (mild : driver.Mild) (step : Step) :
    (carryOut driver context step).Mild := by
  have moves :
      (makeMoves driver context
        (step.moves context.settings context.baseUrl)).Mild :=
    mild_makeMoves mild _
  unfold carryOut
  split
  · exact mild_timed moves _ _
  · exact moves

theorem execute_of_mild (mild : driver.Mild) (context : StepContext)
    (step : Step) {world : World σ} (ready : world.log.threshold.isSome) :
    ∃ outcome after,
      execute driver context step world = (.ok outcome, after) := by
  obtain ⟨duration, finish, _, _, result⟩ :=
    execute_eq driver context (setUpLog_of_isSome ready) step
  rcases ended : carryOut driver context step world
    with ⟨fault | picture, after⟩ <;>
    rw [ended] at result
  · have goesOn := mild_carryOut mild step world fault after ended
    rw [Step.judged, if_neg (by simp [goesOn])] at result
    exact ⟨_, finish, result⟩
  · exact ⟨_, finish, result⟩

end Act

/-! ## Runs -/

/-- A recorder whose refusals never ask the program to stop. -/
def Recorder.Polite : Recorder → Prop
  | .absent => True
  | .history _ => True
  | .custom refuses =>
      ∀ before record fault, refuses before record = some fault →
        fault.exits = false

/-- The recorders that the program makes itself are polite. -/
theorem Recorder.polite_of_own {recorder : Recorder}
    (own : ∀ refuses, recorder ≠ .custom refuses) : recorder.Polite := by
  cases recorder with
  | absent => trivial
  | history path => trivial
  | custom refuses => exact (own refuses rfl).elim

namespace Runner

open Act FileSystem

variable {driver : Driver σ} {context : StepContext} {options : RunOptions}
  {recorder : Recorder} {kept : Place → Prop} {workdir : Place}

theorem mild_store (path : Path) (record : RunRecord) :
    (store path record : Act σ Unit).Mild := by
  refine mild_bind (mild_logger _) fun _ => mild_bind ?_ fun _ =>
    (total_log _ _ _).mild
  intro world fault after failed
  dsimp only at failed
  split at failed <;> cases failed
  rfl

theorem mild_submit (polite : recorder.Polite) (record : RunRecord) :
    (submit recorder record : Act σ Unit).Mild := by
  cases recorder with
  | absent => exact (total_pure _).mild
  | history path =>
      exact mild_bind (total_change _).mild fun _ => mild_store _ _
  | custom refuses =>
      refine mild_bind (total_ask _).mild fun before =>
        mild_bind (total_change _).mild fun _ => ?_
      split
      · exact mild_fail (polite before record _ ‹_›)
      · exact (total_pure _).mild

theorem total_record {runner : Runner} (polite : runner.recorder.Polite)
    (flowName baseUrl : String) (passed failed total duration : Int) :
    (runner.record flowName baseUrl passed failed total duration : Act σ
      Unit).Total := by
  refine total_bind (total_ask _) fun _ =>
    total_bind (total_settle (mild_submit polite _)) fun result => ?_
  cases result with
  | ok _ => exact total_pure _
  | error _ => exact total_log _ _ _

theorem runSteps_of_mild (mild : driver.Mild)
    (apart : WritesAside kept workdir context.screenshotDir recorder)
    (log : Logger) (total index : Nat) (steps : List Step) (tally : Tally)
    {world : World σ} (logs : world.LogsAside kept workdir) :
    ∃ account after,
      runSteps driver context options log total index steps tally world =
        (.ok account, after) := by
  induction steps generalizing index tally world with
  | nil => exact ⟨tally, world, rfl⟩
  | cons step steps induction =>
      obtain ⟨outcome, executed, executing⟩ :=
        execute_of_mild mild context step logs.ready
      obtain ⟨logs, _, _⟩ :=
        (within_execute (Frame.upkeep_admitsSteps driver apart.screenshots)
          step).allows executing logs
      obtain ⟨_, told, telling⟩ :=
        total_tellStep options
          (world.log.withContext log [("step_index", .int index),
            ("action", .text step.action.name)])
          index total outcome executed
      obtain ⟨logs, _, _⟩ :=
        (within_tellStep Frame.upkeep_admitsTelling _ _ _ _).allows telling logs
      rw [runSteps, withContext, ask_bind, bind_of_ok executing,
        bind_of_ok telling]
      split
      · exact ⟨_, _, rfl⟩
      · exact induction _ _ logs

/-- With sessions that open and close, an act that gives a value does so in a
session as well. -/
theorem withSession_of_obliging (obliging : driver.Obliging) (headless : Bool)
    (act : Act σ α) (world : World σ)
    (inner : ∀ opened, reply (.opened headless)
      (fun time state => driver.launch time headless state) world =
        (.ok (), opened) →
      ∃ value after, act opened = (.ok value, after)) :
    ∃ value after,
      withSession driver headless act world = (.ok value, after) := by
  have launched : ∃ opened, reply (.opened headless)
      (fun time state => driver.launch time headless state) world =
        (.ok (), opened) := by
    unfold reply
    simp only [obliging.opens]
    exact ⟨_, rfl⟩
  obtain ⟨opened, launching⟩ := launched
  obtain ⟨value, between, done⟩ := inner opened launching
  have released : ∃ closed, reply .closed
      (fun time state => driver.release time state) between =
        (.ok (), closed) := by
    unfold reply
    simp only [obliging.closes]
    exact ⟨_, rfl⟩
  obtain ⟨closed, releasing⟩ := released
  refine ⟨value, closed, ?_⟩
  rw [withSession, bind_of_ok launching, ensuring, done]
  simp only [releasing]

private theorem runFlow_of_find {runner : Runner} {flow : Flow}
    {world : World σ} (obliging : driver.Obliging)
    (own : ∀ refuses, runner.recorder ≠ .custom refuses)
    (apart : WritesAside kept workdir
      (options.screenshotDir.getD runner.settings.screenshotDir)
      runner.recorder)
    (logs : world.LogsAside kept workdir)
    (stands : world.files.find
      (options.screenshotDir.getD runner.settings.screenshotDir) =
      .ok .directory) :
    ∃ result after,
      runner.runFlow driver options flow world = (.ok result, after) := by
  have telling : (Frame.upkeep kept workdir : Frame σ).AdmitsTelling :=
    Frame.upkeep_admitsTelling
  have ensured :
      ensureDirectory (runner.contextFor options flow).screenshotDir world =
      (.ok (), world) := by
    unfold Act.ensureDirectory
    rw [contextFor, ensureDirectory_of_find stands]
  obtain ⟨_, logged, logging⟩ :=
    total_log (world.log.withContext runLog [("flow", .text flow.name)])
      .info (startText flow (runner.contextFor options flow).baseUrl) world
  obtain ⟨logs, _, _⟩ := (telling.log _ _ _).allows logging logs
  obtain ⟨_, reported, reporting⟩ :=
    total_report options
      (Report.flat_header flow.name (runner.contextFor options flow).baseUrl)
      logged
  obtain ⟨logs, _, _⟩ := (within_report telling _).allows reporting logs
  obtain ⟨tally, closed, session⟩ :=
    withSession_of_obliging obliging
      (options.headless.getD runner.settings.headless)
      (runSteps driver (runner.contextFor options flow) options
        (world.log.withContext runLog [("flow", .text flow.name)])
        flow.steps.length 1 flow.steps .start) reported fun opened launching =>
        by
        obtain ⟨logs, _, _⟩ :=
          ((Frame.upkeep_admitsRuns driver apart).launch _).allows
            launching logs
        exact runSteps_of_mild obliging.answers apart _ _ _ _ _ logs
  let result := resultOf flow (runner.contextFor options flow)
    (max 0 (closed.milliseconds - reported.milliseconds)) tally
  obtain ⟨_, told, finishing⟩ :=
    total_log
      (world.log.withContext runLog [("flow", .text flow.name)]) .info
      (finishText result) closed
  obtain ⟨_, recorded, recording⟩ :=
    total_record (Recorder.polite_of_own own) result.name result.baseUrl
      result.passed
      result.failed result.total result.duration told
  obtain ⟨_, last, summing⟩ :=
    total_report options (Report.flat_summary result) recorded
  refine ⟨result, last, ?_⟩
  rw [runFlow, bind_of_ok ensured, withContext, ask_bind, bind_of_ok logging,
    bind_of_ok reporting, milliseconds, ask_bind, bind_of_ok session, since,
    ask_bind, bind_of_ok finishing, bind_of_ok recording, bind_of_ok summing]
  rfl

/-- A flow that can be run has a result, and a directory for screenshots stands
afterwards. -/
theorem runFlow_of_obliging {runner : Runner} {flow : Flow} {world : World σ}
    (obliging : driver.Obliging)
    (own : ∀ refuses, runner.recorder ≠ .custom refuses)
    (apart : WritesAside kept workdir
      (options.screenshotDir.getD runner.settings.screenshotDir)
      runner.recorder)
    (logs : world.LogsAside kept workdir)
    (creatable : (world.files.ensureDirectory
      (options.screenshotDir.getD runner.settings.screenshotDir)).2 = .ok ()) :
    ∃ result after,
      runner.runFlow driver options flow world = (.ok result, after) ∧
      after.files.find
          (options.screenshotDir.getD runner.settings.screenshotDir) =
        .ok .directory := by
  have stands := find_of_ensureDirectory creatable
  rcases making : world.files.ensureDirectory
    (options.screenshotDir.getD runner.settings.screenshotDir) with ⟨files,
      fault | done⟩ <;>
    rw [making] at creatable stands
  · cases creatable
  let made : World σ := { world with files := files }
  have first :
      ensureDirectory (runner.contextFor options flow).screenshotDir world =
      (.ok (), made) := by
    unfold Act.ensureDirectory
    rw [contextFor, making]
  have again :
      ensureDirectory (runner.contextFor options flow).screenshotDir made =
      (.ok (), made) := by
    unfold Act.ensureDirectory
    rw [contextFor, ensureDirectory_of_find stands]
  -- The directory is made before anything else, so that it might as well have
  -- stood from the start.
  have same : runner.runFlow driver options flow world =
      runner.runFlow driver options flow made := by
    rw [runFlow, bind_of_ok first, bind_of_ok again]
  obtain ⟨logs, _, _⟩ :=
    (Frame.upkeep_admitsTelling.makeDirectory _).allows first logs
  obtain ⟨result, after, ran⟩ := runFlow_of_find obliging own apart logs stands
  obtain ⟨_, extended, _⟩ :=
    (within_runFlow (Frame.upkeep_admitsRuns driver apart)).allows ran logs
  rw [same]
  exact ⟨result, after, ran, extended.find (.inl rfl) stands⟩

end Runner

end PageFlow
