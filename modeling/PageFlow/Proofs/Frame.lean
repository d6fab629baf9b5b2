import PageFlow.Proofs.Act
import PageFlow.Runner

/-!
# Frames

A frame says in which ways the world may change. If it admits the few changes
that steps and runs are made of, it admits all that carrying out a step, a flow
or a batch of flows does to the world, whatever comes of it. Each fact about
what a run leaves alone is a frame.
-/

namespace PageFlow

variable {σ α β : Type}

/-- Changes of the world that can be made one after another, or not at all. -/
structure Frame (σ : Type) where
  allows : World σ → World σ → Prop
  refl : ∀ world, allows world world
  trans : ∀ {first second third},
    allows first second → allows second third → allows first third

/-- Nothing that a view of the world shows is changed. -/
def Frame.keeping (view : World σ → α) : Frame σ where
  allows before after := view after = view before
  refl _ := rfl
  trans first second := second.trans first

/-- Whatever comes of an act, it changes the world within a frame. -/
def Act.Within (act : Act σ α) (frame : Frame σ) : Prop :=
  ∀ world, frame.allows world (act world).2

namespace Act

variable {frame : Frame σ}

theorem Within.allows {act : Act σ α} {world after : World σ}
    {result : Except Fault α} (within : act.Within frame)
    (ended : act world = (result, after)) : frame.allows world after := by
  have change := within world
  rwa [ended] at change

theorem within_pure (value : α) : (pure value : Act σ α).Within frame :=
  frame.refl

theorem within_ask (f : World σ → α) : (ask f).Within frame :=
  frame.refl

theorem within_fail (fault : Fault) : (fail fault : Act σ α).Within frame :=
  frame.refl

theorem allows_of_bind (act : Act σ α) {next : α → Act σ β}
    (second : ∀ value, (next value).Within frame) (world : World σ) :
    frame.allows (act world).2 ((act >>= next) world).2 := by
  rcases result : act world with ⟨_ | value, between⟩
  · rw [bind_of_error result]
    exact frame.refl between
  · rw [bind_of_ok result]
    exact second value between

theorem within_bind {act : Act σ α} {next : α → Act σ β}
    (first : act.Within frame) (second : ∀ value, (next value).Within frame) :
    (act >>= next).Within frame :=
  fun world => frame.trans (first world) (allows_of_bind act second world)

theorem within_settle {act : Act σ α} (inner : act.Within frame) :
    (settle act).Within frame := by
  intro world
  rcases result : act world with ⟨fault | value, after⟩
  · rw [settle_of_error result]
    have change := inner world
    rw [result] at change
    split <;> exact change
  · rw [settle_of_ok result]
    simpa [result] using inner world

theorem within_ensuring {first : Act σ α} {second : Act σ Unit}
    (opening : first.Within frame) (closing : second.Within frame) :
    (ensuring first second).Within frame := by
  intro world
  rcases result : first world with ⟨outcome, between⟩
  have before : frame.allows world between := by
    simpa [result] using opening world
  have after := closing between
  rcases ending : second between with ⟨_ | _, last⟩ <;> rw [ending] at after <;>
    simpa [ensuring, result, ending] using frame.trans before after

end Act

/-! ## Telling -/

/-- A frame admits what logging is made of: making directories, and setting up
and writing the log. -/
structure Frame.AdmitsLogging (frame : Frame σ) : Prop where
  makeDirectory : ∀ path, (Act.ensureDirectory path).Within frame
  setUpLog : Act.setUpLog.Within frame
  log : ∀ logger level message, (Act.log logger level message).Within frame

/-- A frame admits what telling is made of: logging and printing. -/
structure Frame.AdmitsTelling (frame : Frame σ) :
    Prop extends frame.AdmitsLogging where
  print : ∀ text, (Act.print text).Within frame

section Telling

variable {frame : Frame σ} {options : RunOptions}

/-- Logging does not reach what is neither the settings nor the files or the
log. -/
theorem Frame.keeping_admitsLogging {view : World σ → α}
    (blind : ∀ (world : World σ) settings files log,
      view { world with settings := settings, files := files, log := log } =
        view world) :
    (Frame.keeping view).AdmitsLogging := by
  have making (path : Path) :
      (Act.ensureDirectory path).Within (.keeping view) := by
    intro world
    simp only [Act.ensureDirectory]
    split <;> exact blind world world.settings _ world.log
  have choosing : (Act.settings : Act σ Settings).Within (.keeping view) := by
    intro world
    unfold Act.settings
    split
    · rfl
    · split
      · exact blind world _ world.files world.log
      · rfl
  refine ⟨making, ?_, ?_⟩
  · refine Act.within_bind (Act.within_ask _) fun log => ?_
    split
    · refine Act.within_bind choosing fun settings => ?_
      split
      · exact Act.within_bind (making _) fun _ world =>
          blind world world.settings world.files _
      · exact fun world => blind world world.settings world.files _
    · exact Act.within_pure _
  · intro logger level message world
    simp only [Act.log, Act.change_apply]
    split
    · exact blind world world.settings _ _
    · rfl

/-- Telling does not reach what is neither the settings nor the files, the log
or the console. -/
theorem Frame.keeping_admitsTelling {view : World σ → α}
    (blind : ∀ (world : World σ) settings files log output,
      view { world with
        settings := settings, files := files, log := log, output := output } =
          view world) :
    (Frame.keeping view).AdmitsTelling where
  toAdmitsLogging :=
    keeping_admitsLogging fun world _ _ _ => blind world _ _ _ world.output
  print _ world := blind world world.settings world.files world.log _

theorem Frame.AdmitsTelling.weaken {wider : Frame σ}
    (admits : frame.AdmitsTelling)
    (wide : ∀ {before after}, frame.allows before after →
      wider.allows before after) : wider.AdmitsTelling where
  makeDirectory path world := wide (admits.makeDirectory path world)
  setUpLog world := wide (admits.setUpLog world)
  log logger level message world := wide (admits.log logger level message world)
  print text world := wide (admits.print text world)

theorem Act.within_logger (admits : frame.AdmitsLogging) (name : String) :
    (Act.logger name).Within frame :=
  within_bind admits.setUpLog fun _ => within_pure _

theorem Act.within_orFail {ε : Type} (fault : ε → Fault) (result : Except ε α) :
    (orFail fault result).Within frame := by
  cases result with
  | error e => exact within_fail _
  | ok value => exact within_pure _

theorem Runner.within_printReport (admits : frame.AdmitsTelling)
    (parts : List Markup.Part) :
    (printReport parts).Within frame :=
  Act.within_bind (Act.within_orFail _ _) fun text => admits.print text

theorem Runner.within_report (admits : frame.AdmitsTelling)
    (parts : List Markup.Part) :
    (report options parts).Within frame := by
  unfold report
  split
  · exact Act.within_pure _
  · exact within_printReport admits parts

theorem Runner.within_report_of_json (json : options.json)
    (parts : List Markup.Part) :
    (report options parts).Within frame := by
  rw [report, if_pos json]
  exact Act.within_pure _

theorem Runner.within_tellStep_of_report (admits : frame.AdmitsLogging)
    (reports : ∀ parts, (report options parts).Within frame) (log : Logger)
    (index total : Nat) (outcome : Outcome) :
    (tellStep options log index total outcome).Within frame := by
  unfold tellStep
  split
  · exact Act.within_bind (admits.log _ _ _) fun _ => reports _
  · exact reports _

theorem Runner.within_tellStep (admits : frame.AdmitsTelling) (log : Logger)
    (index total : Nat) (outcome : Outcome) :
    (tellStep options log index total outcome).Within frame :=
  within_tellStep_of_report admits.toAdmitsLogging
    (within_report admits) _ _ _ _

end Telling

/-! ## Steps -/

/-- A screenshot that a call asks for belongs into a directory. -/
def Call.StaysIn (directory : Path) : Call → Prop
  | .screenshot path =>
      ∃ label time, path = Screenshot.path directory label time
  | _ => True

/-- A frame admits what delays are made of: naps and random numbers. -/
structure Frame.AdmitsDelays (frame : Frame σ) : Prop where
  nap : ∀ seconds, (Act.nap seconds).Within frame
  draw : Act.draw.Within frame

/-- Delays do not reach what is neither the clock nor the naps or the random
numbers in use. -/
theorem Frame.keeping_admitsDelays {view : World σ → α}
    (blind : ∀ (world : World σ) clock naps drawn,
      view { world with clock := clock, naps := naps, drawn := drawn } =
        view world) :
    (Frame.keeping view).AdmitsDelays := by
  constructor
  · intro seconds world
    unfold Act.nap
    dsimp only
    split
    · exact blind world world.clock _ world.drawn
    · split
      · exact blind world _ _ world.drawn
      · exact blind world world.clock _ world.drawn
  · exact fun world => blind world world.clock world.naps _

theorem Frame.AdmitsDelays.weaken {frame wider : Frame σ}
    (admits : frame.AdmitsDelays)
    (wide : ∀ {before after}, frame.allows before after →
      wider.allows before after) : wider.AdmitsDelays where
  nap seconds world := wide (admits.nap seconds world)
  draw world := wide (admits.draw world)

/-- A frame admits what steps are made of: logging, delays, and calls on the
page. -/
structure Frame.AdmitsSteps (frame : Frame σ) (driver : Driver σ)
    (directory : Path) :
    Prop
    extends frame.AdmitsLogging, frame.AdmitsDelays where
  perform : ∀ call, call.StaysIn directory →
    (Act.perform driver call).Within frame

namespace Act

variable {frame : Frame σ} {driver : Driver σ} {context : StepContext}

theorem within_delay (admits : frame.AdmitsDelays) (enabled : Bool)
    (least most : Int) :
    (delay enabled least most).Within frame := by
  cases enabled with
  | true => exact within_bind admits.draw fun _ => within_pure _
  | false => exact within_pure _

theorem within_sleep (admits : frame.AdmitsDelays) (ms : Decimal.Binary64) :
    (sleep ms).Within frame := by
  unfold sleep
  split
  · exact admits.nap _
  · exact frame.refl

theorem within_sleepWhole (admits : frame.AdmitsDelays) (ms : Int) :
    (sleepWhole ms).Within frame := by
  unfold sleepWhole
  split
  · exact frame.refl
  · split
    · exact within_fail _
    · exact admits.nap _

theorem within_timed (admits : frame.AdmitsLogging) {act : Act σ α}
    (inner : act.Within frame) (level : LogLevel) (label : String) :
    (timed level label act).Within frame := by
  refine within_bind (within_logger admits _) fun _ =>
    within_bind (within_ask _) fun _ => within_ensuring inner ?_
  exact within_bind (within_ask _) fun _ => admits.log _ _ _

theorem within_refuse (reason : String) (raw : List (Value × Value)) :
    (refuse reason raw : Act σ α).Within frame := by
  unfold refuse
  split
  · split <;> exact within_fail _
  · exact within_fail _

theorem within_capture {directory : Path}
    (admits : frame.AdmitsSteps driver directory) (label : String)
    (time : Option DateTime) :
    (capture driver directory label time).Within frame := by
  refine within_bind (within_logger admits.toAdmitsLogging _) fun _ =>
    within_bind (within_ask _) fun present =>
    within_bind (admits.makeDirectory _) fun _ =>
      within_bind (admits.perform _ ?_) fun _ =>
    within_bind (admits.log _ _ _) fun _ => within_pure _
  exact ⟨label, time.getD present, rfl⟩

theorem within_perform {call : Call}
    (asking : (reply (.called call) fun time state =>
      driver.perform time call state).Within frame)
    (writing : ∀ path data, call = .screenshot path →
      (writeFile path data).Within frame) :
    (perform driver call).Within frame := by
  refine within_bind asking fun answer => ?_
  cases call with
  | screenshot path =>
      exact within_bind (writing _ _ rfl) fun _ => within_pure _
  | _ => exact within_pure _

end Act

/-- Sessions do not reach what is neither their own state and events nor the
clock. -/
theorem Frame.keeping_reply {view : World σ → α}
    (blind : ∀ (world : World σ) session events clock,
      view { world with session := session, events := events, clock := clock } =
        view world)
    (event : SessionEvent) (asked : Int → σ → Reply σ β) :
    (Act.reply event asked).Within (.keeping view) := by
  intro world
  rw [Act.reply_eq]
  exact blind world _ _ _

theorem Frame.keeping_admitsSteps {view : World σ → α}
    (blind : ∀ (world : World σ)
        session events clock drawn naps files settings log,
      view { world with
        session := session, events := events, clock := clock, drawn := drawn,
        naps := naps, files := files, settings := settings, log := log } =
          view world)
    (driver : Driver σ) (directory : Path) :
    (Frame.keeping view).AdmitsSteps driver directory where
  toAdmitsLogging := keeping_admitsLogging fun world _ _ _ =>
    blind world world.session world.events world.clock world.drawn
      world.naps _ _ _
  toAdmitsDelays := keeping_admitsDelays fun world _ _ _ =>
    blind world world.session world.events _ _ _ world.files
      world.settings world.log
  perform call _ := by
    refine Act.within_perform
      (keeping_reply (fun world session events clock => ?_) _ _)
      fun path data _ world => ?_
    · exact blind world session events clock world.drawn world.naps world.files
        world.settings
        world.log
    · unfold Act.writeFile
      split
      · exact blind world world.session world.events world.clock
          world.drawn world.naps _
          world.settings world.log
      · rfl

/-- A screenshot that a move asks for by itself belongs into a directory. -/
def Move.StaysIn (directory : Path) : Move → Prop
  | .call asked => asked.StaysIn directory
  | _ => True

theorem Step.moves_stayIn (step : Step) (settings : Settings) (baseUrl : String)
    (directory : Path) :
    ∀ move ∈ step.moves settings baseUrl, move.StaysIn directory := by
  intro move member
  unfold Step.moves at member
  cases action : step.action <;>
    simp only [action, List.mem_cons, List.not_mem_nil, or_false,
      List.mem_append, List.mem_map] at member
  case type selector text =>
    rcases member with (rfl | rfl | rfl) | ⟨c, _, rfl⟩ <;> trivial
  all_goals
    rcases member with rfl | rfl | rfl <;> trivial

namespace Act

variable {frame : Frame σ} {driver : Driver σ} {context : StepContext}

theorem within_makeMove
    (admits : frame.AdmitsSteps driver context.screenshotDir) (move : Move)
    (stays : move.StaysIn context.screenshotDir) :
    (makeMove driver context move).Within frame := by
  cases move with
  | call call =>
      exact within_bind (admits.perform _ stays) fun _ => within_pure _
  | pause =>
      exact within_bind (within_delay admits.toAdmitsDelays _ _ _) fun _ =>
        within_bind (within_sleepWhole admits.toAdmitsDelays _) fun _ =>
          within_pure _
  | key locator character =>
      exact within_bind (within_delay admits.toAdmitsDelays _ _ _) fun _ =>
        within_bind (admits.perform _ trivial) fun _ => within_pure _
  | picture label =>
      exact within_bind (within_capture admits _ _) fun _ => within_pure _
  | check locator expected =>
      refine within_bind (admits.perform _ trivial) fun found => ?_
      split
      · exact within_pure _
      · exact within_fail _
  | rest ms =>
      exact within_bind (within_sleep admits.toAdmitsDelays _) fun _ =>
        within_pure _
  | refuse reason raw => exact within_refuse _ _

theorem within_makeMoves_of_each {moves : List Move}
    (each : ∀ move ∈ moves, (makeMove driver context move).Within frame) :
    (makeMoves driver context moves).Within frame := by
  induction moves with
  | nil => exact within_pure _
  | cons move moves induction =>
      obtain ⟨first, later⟩ := List.forall_mem_cons.mp each
      exact within_bind first fun _ => within_bind (induction later) fun _ =>
        within_pure _

theorem within_makeMoves
    (admits : frame.AdmitsSteps driver context.screenshotDir)
    (moves : List Move)
    (stay : ∀ move ∈ moves, move.StaysIn context.screenshotDir) :
    (makeMoves driver context moves).Within frame :=
  within_makeMoves_of_each fun move member =>
    within_makeMove admits move (stay move member)

theorem within_carryOut_of_each (admits : frame.AdmitsLogging) {step : Step}
    (each : ∀ move ∈ step.moves context.settings context.baseUrl,
      (makeMove driver context move).Within frame) :
    (carryOut driver context step).Within frame := by
  have work := within_makeMoves_of_each each
  unfold carryOut
  split
  · exact within_timed admits work _ _
  · exact work

theorem within_carryOut
    (admits : frame.AdmitsSteps driver context.screenshotDir) (step : Step) :
    (carryOut driver context step).Within frame :=
  within_carryOut_of_each admits.toAdmitsLogging fun move member =>
    within_makeMove admits move (step.moves_stayIn _ _ _ move member)

theorem within_execute_of_carryOut (admits : frame.AdmitsLogging) {step : Step}
    (work : (carryOut driver context step).Within frame) :
    (execute driver context step).Within frame := by
  refine within_bind (within_logger admits _) fun _ =>
    within_bind (within_ask _) fun _ => within_bind (within_ask _) fun _ =>
    within_bind (within_settle work) fun result =>
      within_bind (within_ask _) fun _ => ?_
  cases result with
  | ok picture => exact within_pure _
  | error fault => exact within_bind (admits.log _ _ _) fun _ => within_pure _

/-- A frame that admits what steps are made of admits the execution of a
step. -/
theorem within_execute (admits : frame.AdmitsSteps driver context.screenshotDir)
    (step : Step) : (execute driver context step).Within frame :=
  within_execute_of_carryOut admits.toAdmitsLogging
    (within_carryOut admits step)

end Act

/-! ## Runs -/

/-- A frame admits what runs are made of besides their steps and reports:
launching and releasing sessions, and handing records to the recorder. -/
structure Frame.AdmitsSessions (frame : Frame σ) (driver : Driver σ)
    (recorder : Recorder) (directory : Path) :
    Prop extends frame.AdmitsSteps driver directory where
  launch : ∀ headless, (Act.reply (.opened headless) fun time state =>
    driver.launch time headless state).Within frame
  release :
    (Act.reply .closed fun time state => driver.release time state).Within frame
  submit : ∀ record, (Runner.submit recorder record).Within frame

/-- A frame admits what runs are made of, with their reports. -/
structure Frame.AdmitsRuns (frame : Frame σ) (driver : Driver σ)
    (recorder : Recorder) (directory : Path) :
    Prop
    extends frame.AdmitsSessions driver recorder directory, frame.AdmitsTelling

namespace Runner

open Act

variable {frame : Frame σ} {driver : Driver σ} {context : StepContext}
  {options : RunOptions}

theorem within_runSteps_of_each (admits : frame.AdmitsLogging)
    (reports : ∀ parts, (report options parts).Within frame) {steps : List Step}
    (each : ∀ step ∈ steps, (execute driver context step).Within frame)
    (log : Logger) (total index : Nat) (tally : Tally) :
    (runSteps driver context options log total index steps tally).Within
      frame := by
  induction steps generalizing index tally with
  | nil => exact within_pure _
  | cons step steps induction =>
      obtain ⟨first, later⟩ := List.forall_mem_cons.mp each
      refine within_bind (within_ask _) fun _ =>
        within_bind first fun outcome =>
        within_bind (within_tellStep_of_report admits reports _ _ _ _) fun _ =>
          ?_
      split
      · exact within_bind (admits.log _ _ _) fun _ => within_pure _
      · exact induction later _ _

theorem within_runSteps_of_report
    (admits : frame.AdmitsSteps driver context.screenshotDir)
    (reports : ∀ parts, (report options parts).Within frame) (log : Logger)
    (total index : Nat) (steps : List Step) (tally : Tally) :
    (runSteps driver context options log total index steps tally).Within
      frame :=
  within_runSteps_of_each admits.toAdmitsLogging reports
    (fun step _ => within_execute admits step) _ _ _ _

theorem within_runSteps {recorder : Recorder}
    (admits : frame.AdmitsRuns driver recorder context.screenshotDir)
    (log : Logger) (total index : Nat) (steps : List Step) (tally : Tally) :
    (runSteps driver context options log total index steps tally).Within
      frame :=
  within_runSteps_of_report admits.toAdmitsSteps
    (within_report admits.toAdmitsTelling) _ _ _ _ _

theorem within_withSession_of {act : Act σ α} {headless : Bool}
    (opening : (Act.reply (.opened headless) fun time state =>
      driver.launch time headless state).Within frame)
    (closing : (Act.reply .closed fun time state =>
      driver.release time state).Within frame)
    (inner : act.Within frame) :
      (withSession driver headless act).Within frame :=
  within_bind opening fun _ => within_ensuring inner closing

theorem within_withSession {directory : Path} {recorder : Recorder}
    (admits : frame.AdmitsSessions driver recorder directory) {act : Act σ α}
    (inner : act.Within frame) (headless : Bool) :
    (withSession driver headless act).Within frame :=
  within_withSession_of (admits.launch _) admits.release inner

/-- Handing over a record receives it, writes it to the files and to the log,
and no more. -/
theorem within_submit (admits : frame.AdmitsLogging)
    (receive : ∀ world record,
      frame.allows world { world with received := world.received ++ [record] })
    (recorder : Recorder)
    (store : ∀ path world record, recorder = .history path →
      frame.allows world
        { world with files :=
          (History.record world.files path (RunRecord.entry record)).1 })
    (record : RunRecord) : (submit recorder record).Within frame := by
  have received : (change fun world : World σ =>
      { world with received := world.received ++ [record] }).Within frame :=
    fun world => receive world record
  cases recorder with
  | absent => exact within_pure _
  | history path =>
      refine within_bind received fun _ =>
        within_bind (within_logger admits _) fun _ =>
        within_bind ?_ fun _ => admits.log _ _ _
      intro world
      have stored := store path world record rfl
      dsimp only
      split <;> rename_i written <;> rwa [written] at stored
  | custom refuses =>
      refine within_bind (within_ask _) fun _ =>
        within_bind received fun _ => ?_
      split
      · exact within_fail _
      · exact within_pure _

/-- Handing over a record does not reach what is neither the settings nor the
files, the log, or the records received. -/
theorem keeping_submit {view : World σ → α}
    (blind : ∀ (world : World σ) settings files log received,
      view { world with
        settings := settings, files := files, log := log,
        received := received } = view world)
    (recorder : Recorder) (record : RunRecord) :
    (submit recorder record).Within (.keeping view) :=
  within_submit (Frame.keeping_admitsLogging fun world _ _ _ =>
    blind world _ _ _ world.received)
    (fun world _ => blind world world.settings world.files world.log _) recorder
    (fun _ world _ _ => blind world world.settings _ world.log world.received)
    record

theorem keeping_admitsSessions {view : World σ → α}
    (blind : ∀ (world : World σ)
        session events clock drawn naps files settings log received,
      view { world with
        session := session, events := events, clock := clock, drawn := drawn,
        naps := naps, files := files, settings := settings, log := log,
        received := received } = view world)
    (recorder : Recorder) (directory : Path) :
    (Frame.keeping view).AdmitsSessions driver recorder directory where
  toAdmitsSteps := Frame.keeping_admitsSteps
    (fun world _ _ _ _ _ _ _ _ => blind world _ _ _ _ _ _ _ _ world.received)
    driver directory
  launch _ := Frame.keeping_reply
    (fun world _ _ _ => blind world _ _ _ world.drawn world.naps world.files _
      world.log _) _ _
  release := Frame.keeping_reply
    (fun world _ _ _ => blind world _ _ _ world.drawn world.naps world.files _
      world.log _) _ _
  submit := keeping_submit
    (fun world _ _ _ _ => blind world _ world.events world.clock world.drawn
      world.naps _ _ _ _) recorder

theorem within_record {runner : Runner} (admits : frame.AdmitsLogging)
    (submitting : ∀ record, (submit runner.recorder record).Within frame)
    (flowName baseUrl : String) (passed failed total duration : Int) :
    (runner.record flowName baseUrl passed failed total duration : Act σ
      Unit).Within frame := by
  refine within_bind (within_ask _) fun _ =>
    within_bind (within_settle (submitting _)) fun result => ?_
  cases result with
  | ok _ => exact within_pure _
  | error _ => exact admits.log _ _ _

/-- Besides its session the run of a flow only logs, reports and hands a record
over. -/
theorem within_runFlow_of_session {runner : Runner} {flow : Flow}
    (admits : frame.AdmitsLogging)
    (reports : ∀ parts, (report options parts).Within frame)
    (submitting : ∀ record, (submit runner.recorder record).Within frame)
    (held : ∀ log,
      (withSession driver (options.headless.getD runner.settings.headless)
        (runSteps driver (runner.contextFor options flow) options log
          flow.steps.length 1 flow.steps .start)).Within frame) :
    (runner.runFlow driver options flow).Within frame :=
  within_bind (admits.makeDirectory _) fun _ =>
    within_bind (within_ask _) fun _ =>
    within_bind (admits.log _ _ _) fun _ => within_bind (reports _) fun _ =>
    within_bind (within_ask _) fun _ => within_bind (held _) fun _ =>
    within_bind (within_ask _) fun _ => within_bind (admits.log _ _ _) fun _ =>
    within_bind (within_record admits submitting _ _ _ _ _ _) fun _ =>
    within_bind (reports _) fun _ => within_pure _

/-- A frame that admits what runs are made of admits the run of a flow, if it
admits the reports. -/
theorem within_runFlow_of_report {runner : Runner} {flow : Flow}
    (admits : frame.AdmitsSessions driver runner.recorder
      (options.screenshotDir.getD runner.settings.screenshotDir))
    (reports : ∀ parts, (report options parts).Within frame) :
    (runner.runFlow driver options flow).Within frame := by
  have inContext :
      frame.AdmitsSteps driver (runner.contextFor options flow).screenshotDir :=
    admits.toAdmitsSteps
  refine within_runFlow_of_session admits.toAdmitsLogging reports admits.submit
    fun log => ?_
  exact within_withSession admits
    (within_runSteps_of_report inContext reports _ _ _ _ _) _

theorem within_runFlow {runner : Runner} {flow : Flow}
    (admits : frame.AdmitsRuns driver runner.recorder
      (options.screenshotDir.getD runner.settings.screenshotDir)) :
    (runner.runFlow driver options flow).Within frame :=
  within_runFlow_of_report admits.toAdmitsSessions
    (within_report admits.toAdmitsTelling)

theorem within_runSource_of_report {runner : Runner} (source : FlowSource)
    (admits : frame.AdmitsSessions driver runner.recorder
      (options.screenshotDir.getD runner.settings.screenshotDir))
    (reports : ∀ parts, (report options parts).Within frame) :
    (runner.runSource driver options source).Within frame :=
  within_bind frame.refl fun _ => within_runFlow_of_report admits reports

theorem within_runSource {runner : Runner} (source : FlowSource)
    (admits : frame.AdmitsRuns driver runner.recorder
      (options.screenshotDir.getD runner.settings.screenshotDir)) :
    (runner.runSource driver options source).Within frame :=
  within_runSource_of_report source admits.toAdmitsSessions
    (within_report admits.toAdmitsTelling)

/-- A frame that admits the run of each flow and the log admits a batch, up to
its report. -/
theorem within_runEach {runner : Runner} (admits : frame.AdmitsLogging)
    (each : ∀ source, (runner.runSource driver options source).Within frame)
    (sources : List FlowSource) (batch : BatchResult) :
    (runner.runEach driver options sources batch).Within frame := by
  induction sources generalizing batch with
  | nil => exact within_pure _
  | cons source sources induction =>
      refine within_bind (within_orFail _ _) fun key => ?_
      refine within_bind (within_settle (each source)) fun result => ?_
      cases result with
      | error fault => exact within_bind (admits.log _ _ _) fun _ => induction _
      | ok result =>
          dsimp only
          split
          · exact within_pure _
          · exact induction _

end Runner

end PageFlow
