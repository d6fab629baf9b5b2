import PageFlow.Proofs.Entries
import PageFlow.Proofs.LogGrowth
import PageFlow.Proofs.Rehearsal
import PageFlow.Proofs.Trials
import PageFlow.Proofs.Turns

/-!
# Warnings

The logger of runs warns of every step that failed, in the order of the steps,
and at the end of a run of a recorder that refused its record. A warning carries
the flow and the step that it is about, on top of what is bound, and no record
carries anything of another step or another flow.
-/

namespace PageFlow

open Act PageFlow.Text

variable {σ : Type} {driver : Driver σ} {options : RunOptions} {flow : Flow}
  {bound own : LogContext} {log : Logger} {index : Nat} {step : Step}
  {world : World σ}

/-! ## What records are about -/

/-- The logger of runs has written a warning. -/
def LogRecord.warns (record : LogRecord) : Bool :=
  record.level = .warning && record.logger = Runner.runLog.name

/-- What the log says of a run besides what is bound. -/
def Flow.values (flow : Flow) : LogContext :=
  [("flow", .text flow.name)]

/-- What the log says of a step besides what is bound. -/
def Trial.values (flow : Flow) (trial : Trial σ) : LogContext :=
  [("flow", .text flow.name), ("step_index", .int trial.index),
    ("action", .text trial.step.action.name)]

/-- A record is the warning of a failed step. -/
structure Trial.Names (flow : Flow) (bound : LogContext) (trial : Trial σ)
    (record : LogRecord) : Prop where
  level : record.level = .warning
  logger : record.logger = Runner.runLog.name
  message : ∃ outcome error,
    trial.result = .ok outcome ∧ outcome.success = false ∧
    outcome.error = some error ∧
    record.message = "Step " ++ toString trial.index ++ "/" ++
        toString flow.steps.length ++ " failed: " ++
      error
  context : record.context.Extends (trial.values flow) bound

/-- The warning of a refused record. It says nothing of the flow besides its
message. -/
def Runner.refusalRecord (flow : Flow) (bound : LogContext) (fault : Fault) :
    LogRecord where
  level := .warning
  logger := runLog.name
  message :=
    "Could not record run for " ++ quoted flow.name ++ ": " ++ fault.message
  context := bound

/-- What the log has of a run: records of its beginning, of each of its trials,
and of its end. -/
structure Chronicle (flow : Flow) (bound : LogContext) (trials : List (Trial σ))
    (refusal : Option Fault) (records : List LogRecord) : Prop where
  warnings : ∃ failures,
    records.filter LogRecord.warns =
      failures ++ (refusal.map (Runner.refusalRecord flow bound)).toList ∧
    List.Forall₂ (Trial.Names flow bound) (trials.filter Trial.failed) failures
  contexts : ∃ opening told closing,
    records = opening ++ told.flatten ++ closing ∧
    (∀ record ∈ opening, record.Keeps flow.values bound) ∧
    List.Forall₂ (fun trial part => ∀ record ∈ part,
      record.Keeps (trial.values flow) bound) trials told ∧
    ∀ record ∈ closing, record.Keeps flow.values bound

theorem LogContext.Extends.congr {context other : LogContext}
    (known : context.Extends own bound)
    (same : ∀ name, Json.find? own name = Json.find? other name) :
    context.Extends other bound :=
  ⟨known.distinct, fun name => same name ▸ known.find? name⟩

theorem LogRecord.filter_warns_eq_nil {records : List LogRecord}
    (silent : ∀ record ∈ records,
      record.logger ≠ Runner.runLog.name ∨ record.level ≠ .warning) :
    records.filter warns = [] := by
  refine List.filter_eq_nil_iff.mpr fun record among => ?_
  rcases silent record among with other | other <;> simp [warns, other]

/-- A scoped logger of runs: whatever is bound later, it has values of its own
on top of what was bound. -/
structure Logger.Scopes (log : Logger) (own bound : LogContext) : Prop where
  name : log.name = Runner.runLog.name
  context : ∀ later : Log, (later.contextOf log).Extends own bound

theorem Logger.Scopes.withContext (scopes : log.Scopes own world.log.bound)
    (distinct : world.log.bound.Distinct) (values : LogContext) :
    (world.log.withContext log values).Scopes (values.reverse ++ own)
      world.log.bound where
  name := scopes.name
  context _ :=
    Log.extends_withContext distinct (scopes.context world.log) values

theorem Runner.scopes_runLog (ready : world.log.Ready) (flow : Flow) :
    (world.log.withContext runLog flow.values).Scopes flow.values
      world.log.bound where
  name := rfl
  context _ := Log.extends_withContext ready.distinct
    (LogContext.extends_self
      ready.distinct : (world.log.contextOf runLog).Extends [] _) flow.values

/-! ## Steps -/

namespace Trial

theorem Names.warns {trial : Trial σ} {record : LogRecord}
    (names : trial.Names flow bound record) : record.warns = true := by
  simp [LogRecord.warns, names.level, names.logger]

structure Told (flow : Flow) (bound : LogContext) (trial : Trial σ)
    (records : List LogRecord) : Prop where
  warnings :
    List.Forall₂ (Names flow bound) ([trial].filter failed)
      (records.filter LogRecord.warns)
  contexts : ∀ record ∈ records, record.Keeps (trial.values flow) bound

/-- The logger of a step knows its flow, its number and its action. -/
theorem scopes_stepLog {trial : Trial σ} (ready : trial.before.log.Ready)
    (scopes : log.Scopes flow.values trial.before.log.bound) :
    (trial.stepLog log).Scopes (trial.values flow) trial.before.log.bound := by
  have stacked := scopes.withContext ready.distinct
    [("step_index", .int trial.index), ("action", .text trial.step.action.name)]
  refine ⟨stacked.name,
    fun later => (stacked.context later).congr fun name => ?_⟩
  -- The names differ, so their order does not matter.
  simp only [Flow.values, values, List.reverse_cons, List.reverse_nil,
    List.nil_append, List.cons_append, Json.find?_cons]
  by_cases inFlow : "flow" = name
  · subst inFlow
    rfl
  · by_cases inIndex : "step_index" = name
    · subst inIndex
      rfl
    · simp [inFlow, inIndex]

end Trial

theorem Runner.grows_tellStep (options : RunOptions) (log : Logger)
    (index total : Nat) (outcome : Outcome) (world : World σ) :
    world.log.Grows
      (if outcome.success then []
        else world.log.written log .warning (failureText index total outcome))
      (tellStep options log index total outcome world).2.log := by
  have reporting (between : World σ) :
      (report options (Report.stepLines outcome index) between).2.log =
        between.log :=
    log_report options _ between
  unfold tellStep
  cases success : outcome.success with
  | true =>
      simp only [Bool.not_true, Bool.false_eq_true, if_false, if_true]
      rw [reporting]
      exact .refl _
  | false =>
      obtain ⟨_, told, telling⟩ :=
        total_log log .warning (failureText index total outcome) world
      have grown :=
        grows_log log .warning (failureText index total outcome) world
      rw [telling] at grown
      simp only [Bool.not_false, if_true, Bool.false_eq_true, if_false]
      rw [bind_of_ok telling, reporting]
      exact grown

namespace Trial

variable {context : StepContext}

/-- The record that the logger of a step makes of its failure is the warning of
the step. -/
theorem names_of_failure {trial : Trial σ} {outcome : Outcome}
    (taken : trial = take driver context trial.index trial.step trial.before)
    (result : trial.result = .ok outcome) (failure : outcome.success = false)
    (scopes : (trial.stepLog log).Scopes (trial.values flow) bound)
    (later : Log) :
    trial.Names flow bound (later.recordOf (trial.stepLog log) .warning
      (Runner.failureText trial.index flow.steps.length outcome)) := by
  have ends :
      (execute driver context trial.step trial.before).1 = .ok outcome :=
    (congrArg Trial.result taken).symm.trans result
  have executed :
      execute driver context trial.step trial.before = (.ok outcome, _) :=
    Prod.ext ends rfl
  obtain ⟨error, present⟩ :=
    Option.isSome_iff_exists.mp
      ((wellFormed_of_execute executed).error.mpr failure)
  refine ⟨rfl, scopes.name, ⟨outcome, error, result, failure, present, ?_⟩,
    scopes.context later⟩
  rw [Log.recordOf, Runner.failureText, present]
  rfl

theorem grows_left_of_unfailed {trial : Trial σ}
    (unfailed : trial.failed = false) (options : RunOptions) (log : Logger)
    (total : Nat) :
    trial.after.log.Grows [] (trial.left options log total).log := by
  rw [left]
  cases result : trial.result with
  | error fault => exact .refl _
  | ok outcome =>
      have success : outcome.success = true := by
        simpa [failed, result] using unfailed
      have goesOn : ¬ trial.isLast options = true := by
        simp [isLast, result, success]
      have telling :=
        Runner.grows_tellStep options (trial.stepLog log) trial.index
          total outcome
          trial.after
      rw [success, if_pos rfl] at telling
      dsimp only
      rw [if_neg goesOn]
      exact telling

/-- The failure of a step is told, and behind it that the run stops, if it
does. -/
theorem grows_left_of_failed {trial : Trial σ} {outcome : Outcome}
    (result : trial.result = .ok outcome) (failure : outcome.success = false)
    (options : RunOptions) (log : Logger) (total : Nat) :
    ∃ tail, trial.after.log.Grows
        (trial.after.log.written (trial.stepLog log) .warning
          (Runner.failureText trial.index total outcome) ++ tail)
        (trial.left options log total).log ∧
      ∀ record ∈ tail, ∃ later : Log, record =
        later.recordOf (trial.stepLog log) .info
          (Runner.stopText trial.index total) := by
  have telling :=
    Runner.grows_tellStep options (trial.stepLog log) trial.index total
      outcome trial.after
  rw [failure, if_neg Bool.false_ne_true] at telling
  rw [left, result]
  dsimp only
  split
  · exact ⟨_, telling.trans (grows_log _ _ _ _),
      fun record among => ⟨_, Log.eq_recordOf among⟩⟩
  · refine ⟨[], ?_, List.forall_mem_nil _⟩
    rw [List.append_nil]
    exact telling

theorem exists_of_failed {trial : Trial σ} (failure : trial.failed = true) :
    ∃ outcome, trial.result = .ok outcome ∧ outcome.success = false := by
  rw [failed] at failure
  split at failure
  · exact ⟨_, ‹_›, by simpa using failure⟩
  · cases failure

/-- A trial adds the records of its step, and behind them a warning if it
failed. -/
theorem told_of_take (driver : Driver σ) (context : StepContext)
    (options : RunOptions) (index : Nat) (step : Step) (ready : world.log.Ready)
    (admits : world.log.admits .warning = true)
    (scopes : log.Scopes flow.values world.log.bound) :
    let trial := take driver context index step world
    ∃ records,
      world.log.Grows records (trial.left options log flow.steps.length).log ∧
      trial.Told flow world.log.bound records := by
  intro trial
  obtain ⟨records, grown, kinds⟩ := grows_execute driver context step ready
  have grown : world.log.Grows records trial.after.log := grown
  have silent : records.filter LogRecord.warns = [] :=
    LogRecord.filter_warns_eq_nil fun record among =>
      .inl (kinds record among).1
  have contexts : ∀ record ∈ records,
      record.Keeps (trial.values flow) world.log.bound :=
    fun record among =>
      (kinds record among).2.mono (.cons _ (.cons _ (.refl _)))
  cases failure : trial.failed with
  | false =>
      have whole :=
        grown.trans
          (grows_left_of_unfailed failure options log flow.steps.length)
      rw [List.append_nil] at whole
      refine ⟨records, whole, ?_, contexts⟩
      rw [silent, List.filter_singleton, failure]
      exact .nil
  | true =>
      obtain ⟨outcome, result, refused⟩ := exists_of_failed failure
      have stacked :
          (trial.stepLog log).Scopes (trial.values flow) world.log.bound :=
        scopes_stepLog ready scopes
      have keeps (later : Log) (level : LogLevel) (message : String) :
          (later.recordOf (trial.stepLog log) level message).Keeps
            (trial.values flow) world.log.bound :=
        ⟨_, .refl _, stacked.context later⟩
      have names := names_of_failure rfl result refused stacked trial.after.log
      obtain ⟨tail, telling, stops⟩ :=
        grows_left_of_failed result refused options log flow.steps.length
      rw [Log.written, if_pos (by rw [grown.admits, admits])] at telling
      have quiet : tail.filter LogRecord.warns = [] := by
        refine LogRecord.filter_warns_eq_nil fun record among => .inr ?_
        obtain ⟨later, rfl⟩ := stops record among
        rintro ⟨⟩
      refine ⟨_, grown.trans telling, ?_, ?_⟩
      · rw [List.filter_append, List.filter_append, silent, quiet,
          List.filter_singleton, failure, List.filter_singleton, names.warns]
        exact .cons names .nil
      · simp only [List.forall_mem_append, List.forall_mem_singleton]
        refine ⟨contexts, keeps _ _ _, fun record among => ?_⟩
        obtain ⟨later, rfl⟩ := stops record among
        exact keeps _ _ _

theorem told_of_all (driver : Driver σ) (context : StepContext)
    (options : RunOptions) (index : Nat) (steps : List Step)
    (ready : world.log.Ready) (admits : world.log.admits .warning = true)
    (scopes : log.Scopes flow.values world.log.bound) :
    let trials :=
      all driver context options log flow.steps.length index steps world
    ∃ told,
      world.log.Grows told.flatten
        (behind options log flow.steps.length world trials).log ∧
      List.Forall₂ (Told flow world.log.bound) trials told := by
  induction steps generalizing index world with
  | nil => exact ⟨[], .refl _, .nil⟩
  | cons step steps induction =>
      obtain ⟨records, grown, told⟩ :=
        told_of_take driver context options index step ready admits scopes
      cases last : (take driver context index step world).isLast options with
      | true =>
          rw [all_of_isLast last]
          refine ⟨[records], ?_, .cons told .nil⟩
          rw [List.flatten_singleton]
          exact grown
      | false =>
          rw [all_of_not_isLast last]
          obtain ⟨later, grownLater, toldLater⟩ :=
            induction (index + 1) (grown.ready ready)
              (by rw [grown.admits, admits]) (grown.bound ▸ scopes)
          refine ⟨records :: later, ?_, .cons told (grown.bound ▸ toldLater)⟩
          exact grown.trans grownLater

theorem warnings_of_told {trials : List (Trial σ)}
    {told : List (List LogRecord)}
    (each : List.Forall₂ (Told flow bound) trials told) :
    List.Forall₂ (Names flow bound) (trials.filter failed)
      (told.flatten.filter LogRecord.warns) := by
  induction each with
  | nil => exact .nil
  | @cons trial records trials told first _ induction =>
      rw [List.flatten_cons, List.filter_append, ← List.singleton_append,
        List.filter_append]
      exact List.rel_append first.warnings induction

end Trial

/-! ## Runs -/

namespace Runner

variable {runner : Runner}

/-- A run begins with a line about its flow, or does not begin at all. -/
theorem grows_prepare (runner : Runner) (options : RunOptions) (flow : Flow)
    (ready : world.log.Ready) :
    (∃ fault begun, runner.prepare options flow world = (.error fault, begun) ∧
      begun.log = world.log) ∨
    ∃ start begun opening, runner.prepare options flow world =
        (.ok (world.log.withContext runLog flow.values, start), begun) ∧
      world.log.Grows opening begun.log ∧
      ∀ record ∈ opening,
        record.Keeps flow.values world.log.bound ∧ record.level ≠ .warning := by
  let context := runner.contextFor options flow
  let log := world.log.withContext runLog flow.values
  rcases making : ensureDirectory context.screenshotDir world
    with ⟨fault | done, made⟩
  all_goals
    have same : made.log = world.log := (log_ensureDirectory _).allows making
  · exact .inl ⟨fault, made, bind_of_error making, same⟩
  · have grown := grows_log log .info (startText flow context.baseUrl) made
    obtain ⟨_, told, telling⟩ :=
      total_log log .info (startText flow context.baseUrl) made
    obtain ⟨_, begun, reporting⟩ :=
      total_report options (Report.flat_header flow.name context.baseUrl) told
    have reported : begun.log = told.log :=
      (log_report options _).allows reporting
    rw [telling, same, ← reported] at grown
    refine .inr ⟨begun.milliseconds, begun, _, ?_, grown,
      fun record among => ?_⟩
    · rw [prepare, bind_of_ok making, withContext, ask_bind, same]
      exact (bind_of_ok telling).trans (bind_of_ok reporting)
    · rw [Log.eq_recordOf among]
      refine ⟨⟨_, .refl _, (scopes_runLog ready flow).context world.log⟩, ?_⟩
      rintro ⟨⟩

theorem grows_hold (runner : Runner) (driver : Driver σ) (options : RunOptions)
    (start : Int) (ready : world.log.Ready)
    (admits : world.log.admits .warning = true)
    (scopes : log.Scopes flow.values world.log.bound) :
    ∃ told,
      world.log.Grows told.flatten
        (runner.hold driver options flow log start world).2.log ∧
      List.Forall₂ (Trial.Told flow world.log.bound)
          (runner.sessionTrials driver options flow log world)
        told := by
  let headless := options.headless.getD runner.settings.headless
  let steps : Act σ Tally :=
    runSteps driver (runner.contextFor options flow) options log
      flow.steps.length 1 flow.steps .start
  have measured : (runner.hold driver options flow log start world).2.log =
      (withSession driver headless steps world).2.log := by
    have measuring (tally : Tally) :
        (do
          let duration ← since start
          return resultOf flow (runner.contextFor options flow) duration tally :
            Act σ RunResult).Within (.keeping World.log) :=
      within_bind (within_ask _) fun _ => within_pure _
    exact allows_of_bind _ measuring world
  rw [measured, sessionTrials]
  cases opens : (driver.launch world.clock headless world.session).answer with
  | error fault =>
      rw [withSession_of_refusal opens]
      exact ⟨[], .refl _, .nil⟩
  | ok _ =>
      rcases acted : steps (world.launched driver headless)
        with ⟨result, between⟩
      have ended : between = (steps (world.launched driver headless)).2 := by
        rw [acted]
      rw [withSession_of_launch opens acted]
      change ∃ told : List (List LogRecord),
        (world.launched driver headless).log.Grows told.flatten between.log ∧ _
      rw [ended, world_of_runSteps]
      exact Trial.told_of_all _ _ _ _ flow.steps ready admits scopes

/-- What a recorder raises when it is handed the record of a result, unless it
is a request to stop. -/
def refusalOf (runner : Runner) (result : RunResult) (world : World σ) :
    Option Fault :=
  match (submit runner.recorder
    (result.recordAt (Calendar.ofMoment world.moment)) world).1 with
  | .ok () => none
  | .error fault => if fault.exits then none else some fault

/-- What the recorder raises at the end of a run, if the run gets as far as
that. -/
def refusal? (runner : Runner) (driver : Driver σ) (options : RunOptions)
    (flow : Flow) (world : World σ) : Option Fault :=
  match runner.prepare options flow world with
  | (.error _, _) => none
  | (.ok (log, start), begun) =>
    match runner.hold driver options flow log start begun with
    | (.error _, _) => none
    | (.ok result, closed) =>
      runner.refusalOf result (Act.log log .info (finishText result) closed).2

/-- Handing over a record is told by the logger of the history at most. -/
theorem adding_submit (recorder : Recorder) (record : RunRecord) :
    (submit recorder record : Act σ Unit).Within (.adding LogRecord.Bare) := by
  have received : (change fun world : World σ =>
      { world with received := world.received ++ [record] }).Within
        (.keeping World.log) :=
    fun _ => rfl
  cases recorder with
  | absent => exact within_pure _
  | history path =>
      have other : "stepflow.store.history" ≠ runLog.name := by decide
      refine within_bind received.adding fun _ =>
        adding_logger (within_bind ?_ fun id => ?_)
      · refine Within.adding fun world => ?_
        split <;> rfl
      · exact adding_log fun _ => ⟨other, rfl⟩
  | custom refuses =>
      refine within_bind (within_ask _) fun before =>
        within_bind received.adding fun _ => ?_
      split
      · exact within_fail _
      · exact within_pure _

theorem grows_record (runner : Runner) (flow : Flow) (result : RunResult)
    (ready : world.log.Ready) (admits : world.log.admits .warning = true)
    (named : result.name = flow.name) :
    ∃ records,
        world.log.Grows records
          (runner.record result.name result.baseUrl result.passed
        result.failed result.total result.duration world).2.log ∧
      (∀ record ∈ records, record.Keeps [] world.log.bound) ∧
      records.filter LogRecord.warns =
        ((runner.refusalOf result world).map
          (refusalRecord flow world.log.bound)).toList := by
  have bare {record : LogRecord} (same : record.context = world.log.bound) :
      record.Keeps [] world.log.bound := by
    refine ⟨[], .refl _, ?_⟩
    rw [same]
    exact LogContext.extends_self ready.distinct
  obtain ⟨records, grown, kinds⟩ := adding_submit runner.recorder
    (result.recordAt (Calendar.ofMoment world.moment)) world ready
  have silent : records.filter LogRecord.warns = [] :=
    LogRecord.filter_warns_eq_nil fun record among =>
      .inl (kinds record among).1
  have keeps : ∀ record ∈ records, record.Keeps [] world.log.bound :=
    fun record among => bare (kinds record among).2
  rw [refusalOf, record, now, ask_bind]
  rcases submitted : submit runner.recorder
    (result.recordAt (Calendar.ofMoment world.moment)) world
    with ⟨fault | _, after⟩
  all_goals
    rw [submitted] at grown
    rw [RunResult.recordAt] at submitted
  · by_cases exits : fault.exits
    · rw [bind_of_error (by rw [settle_of_error submitted, if_pos exits])]
      dsimp only
      rw [if_pos exits]
      exact ⟨records, grown, keeps, silent⟩
    · let warning := refusalRecord flow world.log.bound fault
      let message :=
        "Could not record run for " ++ quoted result.name ++
          ": " ++ fault.message
      have same : after.log.recordOf runLog .warning message = warning := by
        simp only [Log.recordOf, warning, refusalRecord, message, named]
        exact congrArg _ grown.bound
      have telling := grows_log runLog .warning message after
      rw [Log.written, if_pos (by rw [grown.admits, admits]), same] at telling
      rw [bind_of_ok (by rw [settle_of_error submitted, if_neg exits])]
      dsimp only
      rw [if_neg exits]
      refine ⟨records ++ [warning], grown.trans telling, ?_, ?_⟩
      · simp only [List.forall_mem_append, List.forall_mem_singleton]
        exact ⟨keeps, bare rfl⟩
      · rw [List.filter_append, silent]
        rfl
  · rw [bind_of_ok (settle_of_ok submitted)]
    exact ⟨records, grown, keeps, silent⟩

theorem grows_conclude (runner : Runner) (options : RunOptions)
    (result : RunResult) (ready : world.log.Ready)
    (admits : world.log.admits .warning = true)
    (scopes : log.Scopes flow.values world.log.bound)
    (named : result.name = flow.name) :
    let told := (Act.log log .info (finishText result) world).2
    ∃ records,
      world.log.Grows records (runner.conclude options log result world).2.log ∧
      (∀ record ∈ records, record.Keeps flow.values world.log.bound) ∧
      records.filter LogRecord.warns =
        ((runner.refusalOf result told).map
          (refusalRecord flow world.log.bound)).toList := by
  intro told
  have finished := grows_log log .info (finishText result) world
  obtain ⟨records, recorded, keeps, warnings⟩ := grows_record runner flow result
    (finished.ready ready) (by rw [finished.admits, admits]) named
  rw [finished.bound] at keeps warnings
  have last : (runner.conclude options log result world).2.log =
      (runner.record result.name result.baseUrl result.passed result.failed
        result.total result.duration told).2.log := by
    have summing (_ : Unit) :
        (do report options (Report.summary result); return result :
        Act σ RunResult).Within (.keeping World.log) :=
      within_bind (log_report _ _) fun _ => within_pure _
    obtain ⟨_, between, telling⟩ :=
      total_log log .info (finishText result) world
    have same : told = between := congrArg Prod.snd telling
    rw [conclude, bind_of_ok telling, same]
    exact allows_of_bind _ summing between
  refine ⟨_, last ▸ finished.trans recorded, ?_, ?_⟩
  · simp only [List.forall_mem_append]
    refine ⟨fun record among => ?_,
      fun record among => (keeps record among).mono (List.nil_sublist _)⟩
    rw [Log.eq_recordOf among]
    exact ⟨_, .refl _, scopes.context world.log⟩
  · have silent :
        (world.log.written log .info (finishText result)).filter
          LogRecord.warns = [] := by
      refine LogRecord.filter_warns_eq_nil fun record among => .inr ?_
      rw [Log.eq_recordOf among]
      rintro ⟨⟩
    rw [List.filter_append, silent]
    exact warnings

/-- The records of a run are those of its beginning, of its trials, and of its
end. -/
theorem grows_runFlow (runner : Runner) (driver : Driver σ)
    (options : RunOptions) (flow : Flow) (ready : world.log.Ready)
    (admits : world.log.admits .warning = true) :
    ∃ records,
      world.log.Grows records (runner.runFlow driver options flow world).2.log ∧
      Chronicle flow world.log.bound (runner.trials driver options flow world)
        (runner.refusal? driver options flow world) records := by
  rw [runFlow_eq_parts, trials, refusal?]
  obtain ⟨fault, begun, preparing, same⟩ | ⟨start, begun, opening, preparing,
      begins, kinds⟩ :=
    grows_prepare runner options flow ready
  · rw [preparing, bind_of_error preparing, same]
    exact ⟨[], .refl _, ⟨[], rfl, .nil⟩,
      ⟨[], [], [], rfl, List.forall_mem_nil _, .nil, List.forall_mem_nil _⟩⟩
  have scopes := scopes_runLog ready flow
  have opened : ∀ record ∈ opening, record.Keeps flow.values world.log.bound :=
    fun record among => (kinds record among).1
  have silent : opening.filter LogRecord.warns = [] :=
    LogRecord.filter_warns_eq_nil fun record among =>
      .inr (kinds record among).2
  obtain ⟨told, during, each⟩ :=
    grows_hold runner driver options start (begins.ready ready)
      (by rw [begins.admits, admits]) (begins.bound ▸ scopes)
  rw [begins.bound] at each
  have failures := Trial.warnings_of_told each
  have contexts := each.imp fun _ _ part => part.contexts
  rw [bind_of_ok preparing, preparing]
  dsimp only
  rcases holding : runner.hold driver options flow
    (world.log.withContext runLog flow.values) start begun
    with ⟨fault | result, closed⟩
  all_goals
    rw [holding] at during
    have through := begins.trans during
  · rw [bind_of_error holding]
    refine ⟨_, through, ⟨_, ?_, failures⟩,
      ⟨opening, told, [], ?_, opened, contexts, List.forall_mem_nil _⟩⟩
    · rw [List.filter_append, silent]
      exact (List.append_nil _).symm
    · rw [List.append_nil]
  · obtain ⟨tally, between, session, measured⟩ := bind_eq_ok.mp holding
    have named : result.name = flow.name := by
      cases measured
      rfl
    obtain ⟨closing, concluded, ends, refused⟩ :=
      grows_conclude runner options result
        (through.ready ready) (by rw [through.admits, admits])
        (through.bound ▸ scopes) named
    rw [through.bound] at ends refused
    rw [bind_of_ok holding]
    refine ⟨_, through.trans concluded, ⟨_, ?_, failures⟩,
      ⟨opening, told, closing, rfl, opened, contexts, ends⟩⟩
    rw [List.filter_append, List.filter_append, silent, refused]
    rfl

/-- What the log has of a source: nothing if it cannot be loaded, and else the
records of its run. -/
def Tells (runner : Runner) (driver : Driver σ) (options : RunOptions)
    (bound : LogContext) (source : FlowSource) (world : World σ)
    (records : List LogRecord) : Prop :=
  match (loadFlow source world).1 with
  | .error _ => records = []
  | .ok flow => Chronicle flow bound (runner.trials driver options flow world)
      (runner.refusal? driver options flow world) records

theorem grows_runSource (runner : Runner) (driver : Driver σ)
    (options : RunOptions) (source : FlowSource) (ready : world.log.Ready)
    (admits : world.log.admits .warning = true) :
    ∃ records,
      world.log.Grows records
        (runner.runSource driver options source world).2.log ∧
      runner.Tells driver options world.log.bound source world records := by
  unfold Tells
  rcases loads : (loadFlow source world).1 with fault | flow
  all_goals
    have loading : loadFlow source world = (_, world) := Prod.ext loads rfl
  · rw [runSource, bind_of_error loading]
    exact ⟨[], .refl _, rfl⟩
  · rw [runSource, bind_of_ok loading]
    exact grows_runFlow runner driver options flow ready admits

/-! ## Batches -/

/-- What the log has of a turn: the records of its source, and a line about its
error. -/
def TellsTurn (runner : Runner) (driver : Driver σ) (options : RunOptions)
    (bound : LogContext) (turn : Turn σ) (records : List LogRecord) : Prop :=
  ∃ own rest, records = own ++ rest ∧
    runner.Tells driver options bound turn.source turn.before own ∧
    ∀ record ∈ rest, record.warns = false ∧ record.context = bound

theorem grows_take (runner : Runner) (driver : Driver σ) (options : RunOptions)
    (source : FlowSource) (ready : world.log.Ready)
    (admits : world.log.admits .warning = true) :
    let turn := Turn.take (runner.runSource driver options) source world
    ∃ records, world.log.Grows records turn.left.log ∧
      runner.TellsTurn driver options world.log.bound turn records := by
  intro turn
  obtain ⟨own, grown, tells⟩ :=
    grows_runSource runner driver options source ready admits
  change world.log.Grows own turn.after.log at grown
  have unheard : ∃ records, world.log.Grows records turn.after.log ∧
      runner.TellsTurn driver options world.log.bound turn records :=
    ⟨own, grown, own, [], (List.append_nil _).symm, tells,
      List.forall_mem_nil _⟩
  unfold Turn.left
  split
  · exact unheard
  · split
    · exact unheard
    · refine ⟨_, grown.trans (grows_log _ _ _ turn.after), own, _, rfl, tells,
        fun record among => ?_⟩
      rw [Log.eq_recordOf among]
      exact ⟨rfl, grown.bound⟩

theorem grows_turns (runner : Runner) (driver : Driver σ) (options : RunOptions)
    (sources : List FlowSource) (ready : world.log.Ready)
    (admits : world.log.admits .warning = true) :
    let turns :=
      Turn.all (runner.runSource driver options) options sources world
    ∃ parts, world.log.Grows parts.flatten (Turn.behind world turns).log ∧
      List.Forall₂ (runner.TellsTurn driver options world.log.bound)
        turns parts := by
  induction sources generalizing world with
  | nil => exact ⟨[], .refl _, .nil⟩
  | cons source sources induction =>
      obtain ⟨records, grown, tells⟩ :=
        grows_take runner driver options source ready admits
      rcases Turn.all_cons (runner.runSource driver options) options source
        sources world with none | ⟨-, one⟩ | ⟨-, more⟩
      · rw [none]
        exact ⟨[], .refl _, .nil⟩
      · rw [one]
        refine ⟨[records], ?_, .cons tells .nil⟩
        rw [List.flatten_singleton]
        exact grown
      · rw [more]
        obtain ⟨later, grownLater, tellsLater⟩ :=
          induction (grown.ready ready) (by rw [grown.admits, admits])
        exact ⟨records :: later, grown.trans grownLater,
          .cons tells (grown.bound ▸ tellsLater)⟩

/-- At a level that admits warnings, whatever is bound beforehand and wherever a
run ends, the warnings of the logger of runs are those of the steps that were
executed and failed, in order, and behind them one more if the recorder refuses
the record of the run. A warning names the flow, the number and the action of
its step on top of what is bound, and no record has values of another step or
another flow. This holds of a single run as well as of each turn of a batch. The
trials of a run are the steps that were executed in it, and have the outcomes of
its result. -/
theorem warnings_name_failed_steps (runner : Runner) (driver : Driver σ)
    (options : RunOptions) (world : World σ)
    (distinct : world.log.bound.Distinct)
    (admits : world.log.admits .warning = true) :
    (∀ source, ∃ records,
      (runner.run driver options source world).2.log.records =
        world.log.records ++ records ∧
      runner.Tells driver options world.log.bound source world records) ∧
    (∀ sources, ∃ parts,
      (runner.runAll driver options sources world).2.log.records =
        world.log.records ++ parts.flatten ∧
      List.Forall₂ (runner.TellsTurn driver options world.log.bound)
        (Turn.all (runner.runSource driver options) options sources world)
        parts) ∧
    ∀ (flow : Flow) (start : World σ),
      (∀ place trial,
        (runner.trials driver options flow start)[place]? = some trial →
        trial.index = place + 1 ∧ flow.steps[place]? = some trial.step ∧
        (trial.result, trial.after) =
          execute driver (runner.contextFor options flow) trial.step
            trial.before) ∧
      ∀ result, (runner.runFlow driver options flow start).1 = .ok result →
        (runner.trials driver options flow start).map (·.result) =
          result.steps.map .ok := by
  have ready : world.log.Ready := by
    refine ⟨?_, distinct⟩
    rw [Log.admits] at admits
    split at admits
    · cases admits
    · rename_i set
      rw [set]
      rfl
  refine ⟨fun source => ?_, fun sources => ?_,
    fun flow start => ⟨fun place trial found => ?_, ?_⟩⟩
  · obtain ⟨records, grown, tells⟩ :=
      grows_runSource runner driver options source ready admits
    obtain ⟨output, ran⟩ := run_eq_printed runner driver options source world
    refine ⟨records, ?_, tells⟩
    rw [ran]
    exact grown.records
  · obtain ⟨parts, grown, tells⟩ :=
      grows_turns runner driver options sources ready admits
    obtain ⟨output, ran⟩ :=
      runAll_eq_printed runner driver options sources world
    refine ⟨parts, ?_, tells⟩
    rw [ran, runEach_eq_turns]
    exact grown.records
  · obtain ⟨number, sequence, taken⟩ := trials_numbered found
    refine ⟨number, sequence, ?_⟩
    rw [taken]
    rfl
  · exact fun result => results_of_runFlow

/-- The second step fails, and the recorder refuses the record. What was bound
under the name of the flow shows in the second warning only. -/
theorem warnings_name_failed_steps_refused :
    let flow : Flow :=
      ⟨"Broken", none, none,
        [⟨.waitFor "#a", none, []⟩, .ofReason "Nothing to do" []]⟩
    let runner : Runner :=
      ⟨.rehearsal, .custom fun _ _ => some ⟨"OSError", "full", none⟩, .off⟩
    let options := { RunOptions.none with json := true }
    let log : Log := { Log.start with
      threshold := some LogLevel.warning.rank
      bound := [("run_id", .text "r1"), ("flow", .text "outer")] }
    let world := { World.rehearsal .plain ⟨[], []⟩ with log := log }
    ∃ failure refusal,
      (runner.run Script.plain.driver options (.flow flow)
          world).2.log.records.filter LogRecord.warns =
        [failure, refusal] ∧
      failure.message = "Step 2/2 failed: Nothing to do" ∧
      Json.find? failure.context "flow" = some (.text "Broken") ∧
      Json.find? failure.context "step_index" = some (.int 2) ∧
      Json.find? failure.context "run_id" = some (.text "r1") ∧
      refusal.message = "Could not record run for 'Broken': full" ∧
      Json.find? refusal.context "flow" = some (.text "outer") := by
  intro flow runner options log world
  obtain ⟨single, -, -⟩ :=
    warnings_name_failed_steps runner Script.plain.driver options world
      (by decide) (by decide)
  obtain ⟨records, written, tells⟩ := single (.flow flow)
  have chronicle :
      Chronicle flow log.bound
        (runner.trials Script.plain.driver options flow world)
    (runner.refusal? Script.plain.driver options flow world) records := tells
  obtain ⟨failures, filtered, each⟩ := chronicle.warnings
  have refused :
      (runner.refusal? Script.plain.driver options flow world).map
        Fault.message =
      some "full" := by decide +kernel
  have failed :
      ((runner.trials Script.plain.driver options flow world).filter
        Trial.failed).map
      (fun trial => (trial.index, trial.result.toOption.bind (·.error))) =
        [(2, some "Nothing to do")] := by decide +kernel
  obtain ⟨fault, refusing, full⟩ := Option.map_eq_some_iff.mp refused
  obtain ⟨trial, alone, facts⟩ := List.map_eq_singleton_iff.mp failed
  obtain ⟨number, error⟩ := Prod.mk.inj facts
  rw [alone] at each
  obtain ⟨failure, rest, names, last, rfl⟩ := List.forall₂_cons_left_iff.mp each
  obtain rfl := List.forall₂_nil_left_iff.mp last
  obtain ⟨outcome, text, result, -, present, message⟩ := names.message
  rw [result] at error
  cases present.symm.trans error
  refine ⟨failure, refusalRecord flow log.bound fault, ?_, ?_, ?_,
    ?_, ?_, ?_, rfl⟩
  · rw [written, ← List.nil_append records]
    exact filtered.trans (by rw [refusing]; rfl)
  · rw [message, number]
    decide +kernel
  · rw [names.context.find?]
    rfl
  · rw [names.context.find?, Trial.values, number]
    rfl
  · rw [names.context.find?]
    rfl
  · rw [refusalRecord, full]
    decide +kernel

end Runner

end PageFlow
