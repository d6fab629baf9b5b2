import PageFlow.Proofs.Frame
import PageFlow.Proofs.LogContexts
import PageFlow.Proofs.LogSetup

/-!
# Growth of the log

A log that was set up only grows: whoever runs flows adds records to it, and
neither its level nor what is bound changes. The records of single steps are not
written by the logger of runs, and say no more of their step than its action.
-/

namespace PageFlow

open Act

variable {σ α β : Type}

/-! ## Contexts on top of what is bound -/

/-- A context has values of its own under some names, and what is bound under
all others. -/
structure LogContext.Extends (context own bound : LogContext) : Prop where
  distinct : context.Distinct
  find? : ∀ name,
    Json.find? context name = (Json.find? own name).or (Json.find? bound name)

theorem LogContext.extends_self {bound : LogContext}
    (distinct : bound.Distinct) : bound.Extends [] bound :=
  ⟨distinct, fun _ => rfl⟩

/-- Of two logs with the same bound context, a scoped logger has the same
context in both. -/
theorem Log.extends_withContext {log : Log} {parent : Logger} {own : LogContext}
    (distinct : log.bound.Distinct)
    (known : (log.contextOf parent).Extends own log.bound)
    (values : LogContext) :
    (log.contextOf (log.withContext parent values)).Extends
      (values.reverse ++ own) log.bound where
  distinct := Log.distinct_withContext distinct parent values
  find? name := by
    rw [Log.find?_withContext known.distinct, known.find?, Json.find?_append,
      Option.or_assoc, Option.or_assoc, Option.or_self]

/-- A record has no values of its own but some of those given. -/
def LogRecord.Keeps (values bound : LogContext) (record : LogRecord) : Prop :=
  ∃ own, own.Sublist values ∧ record.context.Extends own bound

theorem LogRecord.Keeps.mono {values more bound : LogContext}
    {record : LogRecord} (keeps : record.Keeps values bound)
    (wider : values.Sublist more) : record.Keeps more bound := by
  obtain ⟨own, among, extended⟩ := keeps
  exact ⟨own, among.trans wider, extended⟩

/-! ## Logs -/

/-- A log is set up, and every name is bound to one value. -/
structure Log.Ready (log : Log) : Prop where
  set : log.threshold.isSome
  distinct : log.bound.Distinct

/-- A log has grown by some records; its level and what is bound are the
same. -/
structure Log.Grows (before : Log) (records : List LogRecord) (after : Log) :
    Prop where
  threshold : after.threshold = before.threshold
  bound : after.bound = before.bound
  records : after.records = before.records ++ records

namespace Log.Grows

variable {before between after : Log} {records later : List LogRecord}

theorem refl (log : Log) : log.Grows [] log :=
  ⟨rfl, rfl, (List.append_nil _).symm⟩

theorem trans (first : before.Grows records between)
    (second : between.Grows later after) :
    before.Grows (records ++ later) after where
  threshold := second.threshold.trans first.threshold
  bound := second.bound.trans first.bound
  records := by rw [second.records, first.records, List.append_assoc]

theorem ready (grown : before.Grows records after) (ready : before.Ready) :
    after.Ready :=
  ⟨grown.threshold ▸ ready.set, grown.bound ▸ ready.distinct⟩

theorem admits (grown : before.Grows records after) (level : LogLevel) :
    after.admits level = before.admits level := by
  rw [Log.admits, Log.admits, grown.threshold]

end Log.Grows

/-- What a logger writes at some level: a record, if the log admits the
level. -/
def Log.written (log : Log) (logger : Logger) (level : LogLevel)
    (message : String) : List LogRecord :=
  if log.admits level then [log.recordOf logger level message] else []

theorem Act.grows_log (logger : Logger) (level : LogLevel) (message : String)
    (world : World σ) :
    world.log.Grows (world.log.written logger level message)
      (Act.log logger level message world).2.log := by
  rw [Log.written, Act.log, change_apply]
  dsimp only
  split
  · exact ⟨rfl, rfl, rfl⟩
  · exact .refl _

theorem Log.eq_recordOf {log : Log} {logger : Logger} {level : LogLevel}
    {message : String} {record : LogRecord}
    (among : record ∈ log.written logger level message) :
    record = log.recordOf logger level message := by
  rw [Log.written] at among
  split at among
  · exact List.mem_singleton.mp among
  · cases among

/-! ## Frames -/

/-- To a log that is ready only records of one kind are added, where the kind
may depend on what is bound. -/
def Frame.adding (kind : LogContext → LogRecord → Prop) : Frame σ where
  allows before after := before.log.Ready →
    ∃ records, before.log.Grows records after.log ∧
      ∀ record ∈ records, kind before.log.bound record
  refl world _ := ⟨[], .refl _, List.forall_mem_nil _⟩
  trans := by
    intro first second third one two ready
    obtain ⟨records, grown, kinds⟩ := one ready
    obtain ⟨later, grownLater, kindsLater⟩ := two (grown.ready ready)
    refine ⟨records ++ later, grown.trans grownLater, fun record among => ?_⟩
    rcases List.mem_append.mp among with early | late
    · exact kinds record early
    · exact grown.bound ▸ kindsLater record late

section Adding

variable {kind : LogContext → LogRecord → Prop} {driver : Driver σ}
  {context : StepContext} {options : RunOptions}

theorem Frame.adding_of_keeping {before after : World σ}
    (kept : (Frame.keeping World.log).allows before after) :
    (Frame.adding kind).allows before after := by
  have same : after.log = before.log := kept
  exact fun _ => ⟨[], same ▸ .refl _, List.forall_mem_nil _⟩

theorem Act.Within.adding {act : Act σ α}
    (keeping : act.Within (.keeping World.log)) : act.Within (.adding kind) :=
  fun world => Frame.adding_of_keeping (keeping world)

theorem Act.adding_logger {name : String} {next : Logger → Act σ α}
    (inner : (next (Logger.named name)).Within (.adding kind)) :
    (logger name >>= next).Within (.adding kind) := by
  intro world ready
  rw [bind_of_ok (logger_of_isSome ready.set name)]
  exact inner world ready

theorem Act.adding_log {name : String} {level : LogLevel} {message : String}
    (fits : ∀ bound, kind bound ⟨level, name, message, bound⟩) :
    (Act.log (Logger.named name) level message : Act σ Unit).Within
      (.adding kind) :=
  fun world _ => ⟨_, grows_log _ _ _ world,
    fun _ among => Log.eq_recordOf among ▸ fits world.log.bound⟩

/-! ## What does not reach the log -/

theorem Frame.log_admitsDelays :
    (Frame.keeping (World.log : World σ → Log)).AdmitsDelays :=
  keeping_admitsDelays fun _ _ _ _ => rfl

theorem Act.log_perform (driver : Driver σ) (call : Call) :
    (perform driver call).Within (.keeping (World.log : World σ → Log)) := by
  refine within_perform (Frame.keeping_reply (fun _ _ _ _ => rfl) _ _)
    fun path data _ world => ?_
  unfold writeFile
  split <;> rfl

theorem Runner.log_report (options : RunOptions) (parts : List Markup.Part) :
    (report options parts).Within (.keeping (World.log : World σ → Log)) := by
  unfold report
  split
  · exact within_pure _
  · exact within_bind (within_orFail _ _) fun text _ => rfl

/-! ## Steps -/

/-- A record of a part of the program other than the runs themselves, without
values of its own. -/
def LogRecord.Bare (bound : LogContext) (record : LogRecord) : Prop :=
  record.logger ≠ Runner.runLog.name ∧ record.context = bound

theorem Act.adding_capture (directory : Path) (label : String)
    (time : Option DateTime) :
    (capture driver directory label time).Within (.adding LogRecord.Bare) := by
  have other : "stepflow.capture.screenshot" ≠ Runner.runLog.name := by decide
  refine adding_logger (within_bind (within_ask _) fun present => ?_)
  refine within_bind (log_ensureDirectory _).adding fun _ => ?_
  refine within_bind (log_perform _ _).adding fun _ => ?_
  exact within_bind (adding_log fun _ => ⟨other, rfl⟩) fun _ => within_pure _

theorem Act.adding_makeMove (driver : Driver σ) (context : StepContext)
    (move : Move) :
    (makeMove driver context move).Within (.adding LogRecord.Bare) := by
  have delays : (Frame.adding LogRecord.Bare : Frame σ).AdmitsDelays :=
    Frame.log_admitsDelays.weaken Frame.adding_of_keeping
  cases move with
  | call call =>
      exact within_bind (log_perform _ _).adding fun _ => within_pure _
  | pause =>
      exact within_bind (within_delay delays _ _ _) fun _ =>
        within_bind (within_sleepWhole delays _) fun _ => within_pure _
  | key locator character =>
      exact within_bind (within_delay delays _ _ _) fun _ =>
        within_bind (log_perform _ _).adding fun _ => within_pure _
  | picture label =>
      exact within_bind (adding_capture _ _ _) fun _ => within_pure _
  | check locator expected =>
      refine within_bind (log_perform _ _).adding fun found => ?_
      split
      · exact within_pure _
      · exact within_fail _
  | rest ms => exact within_bind (within_sleep delays _) fun _ => within_pure _
  | refuse reason raw => exact within_refuse _ _

theorem Act.adding_timed {act : Act σ α}
    (inner : act.Within (.adding LogRecord.Bare)) (level : LogLevel)
    (label : String) :
    (timed level label act).Within (.adding LogRecord.Bare) := by
  have other : "stepflow.utils.timing" ≠ Runner.runLog.name := by decide
  refine adding_logger
    (within_bind (within_ask _) fun _ => within_ensuring inner ?_)
  exact within_bind (within_ask _) fun _ => adding_log fun _ => ⟨other, rfl⟩

theorem Act.adding_carryOut (driver : Driver σ) (context : StepContext)
    (step : Step) :
    (carryOut driver context step).Within (.adding LogRecord.Bare) := by
  have work :=
    within_makeMoves_of_each
      fun move (_ : move ∈ step.moves context.settings context.baseUrl) =>
    adding_makeMove driver context move
  unfold carryOut
  split
  · exact adding_timed work _ _
  · exact work

/-- The records of the execution of a step are not those of runs, and say no
more of the step than its action. -/
theorem Act.grows_execute (driver : Driver σ) (context : StepContext)
    (step : Step) {world : World σ} (ready : world.log.Ready) :
    ∃ records,
      world.log.Grows records (execute driver context step world).2.log ∧
      ∀ record ∈ records, record.logger ≠ Runner.runLog.name ∧
        record.Keeps [("action", .text step.action.name)] world.log.bound := by
  obtain ⟨records, grown, bare⟩ :=
    adding_carryOut driver context step world ready
  have plain : ∀ record ∈ records, record.logger ≠ Runner.runLog.name ∧
      record.Keeps [("action", .text step.action.name)] world.log.bound := by
    intro record among
    obtain ⟨other, same⟩ := bare record among
    refine ⟨other, [], List.nil_sublist _, ?_⟩
    rw [same]
    exact LogContext.extends_self ready.distinct
  rw [execute, bind_of_ok (logger_of_isSome ready.set _), withContext, ask_bind,
    milliseconds, ask_bind]
  let logger := world.log.withContext (Logger.named "stepflow.core.actions")
    [("action", .text step.action.name)]
  have other : "stepflow.core.actions" ≠ Runner.runLog.name := by decide
  have plainly :
      (world.log.contextOf (Logger.named "stepflow.core.actions")).Extends []
        world.log.bound :=
    LogContext.extends_self ready.distinct
  rcases done : carryOut driver context step world with ⟨fault | picture, after⟩
  all_goals
    rw [done] at grown
  · by_cases exits : fault.exits
    · rw [bind_of_error (by rw [settle_of_error done, if_pos exits])]
      exact ⟨records, grown, plain⟩
    · rw [bind_of_ok (by rw [settle_of_error done, if_neg exits]), since,
        ask_bind]
      refine ⟨_, grown.trans
        (grows_log logger .debug ("Step failed: " ++ fault.message) after), ?_⟩
      intro record among
      rcases List.mem_append.mp among with early | last
      · exact plain record early
      · rw [Log.eq_recordOf last]
        exact ⟨other, _, .refl _,
          Log.extends_withContext ready.distinct plainly _⟩
  · rw [bind_of_ok (settle_of_ok done), since, ask_bind]
    exact ⟨records, grown, plain⟩

end Adding

end PageFlow
