import PageFlow.Proofs.Likeness

/-!
# The course of a run

A run is prepared, holds its session, and concludes. Only the middle part has to
do with the session. The first part fails where the directory for screenshots
cannot be made, and the last one hands one record to the recorder, whatever the
recorder makes of it.
-/

namespace PageFlow

open Act

variable {σ α : Type} {driver : Driver σ}

/-! ## What is told -/

/-- What no report and no line of the log touches: the session and what happened
to it, the time, the random numbers in use, and the records received. -/
def World.stage (world : World σ) :
    (σ × List SessionEvent) × (Int × Int) × ((Nat → Int) × Nat) × List
      RunRecord :=
  ((world.session, world.events), (world.epoch, world.clock),
    (world.random, world.drawn), world.received)

/-- Between two worlds there are only reports and lines of the log. -/
def World.Calm (before after : World σ) : Prop :=
  (Frame.keeping World.stage).allows before after

theorem Frame.calm_admitsTelling :
    (Frame.keeping (World.stage (σ := σ))).AdmitsTelling :=
  keeping_admitsTelling fun _ _ _ _ _ => rfl

namespace World.Calm

variable {before after : World σ}

theorem quiet (calm : before.Calm after) : before.Quiet after :=
  congrArg Prod.fst calm

theorem session (calm : before.Calm after) : after.session = before.session :=
  congrArg (·.1.1) calm

theorem clock (calm : before.Calm after) : after.clock = before.clock :=
  congrArg (·.2.1.2) calm

theorem moment (calm : before.Calm after) : after.moment = before.moment :=
  congrArg (fun stage => stage.2.1.1 * 1000 + Int.fdiv stage.2.1.2 1000) calm

theorem received (calm : before.Calm after) :
    after.received = before.received :=
  congrArg (·.2.2.2) calm

end World.Calm

theorem Act.calm_log (logger : Logger) (level : LogLevel) (message : String)
    (world : World σ) :
    world.Calm (log logger level message world).2 :=
  Frame.calm_admitsTelling.log logger level message world

/-! ## Sessions -/

/-- The world behind an event and the reply to it. -/
def World.noting (world : World σ) (event : SessionEvent) (reply : Reply σ α) :
    World σ :=
  { world with
    session := reply.state
    events := world.events ++ [event]
    clock := world.clock + reply.elapsed }

/-- The world in which a session was asked for. -/
def World.launched (driver : Driver σ) (headless : Bool) (world : World σ) :
    World σ :=
  world.noting (.opened headless)
    (driver.launch world.clock headless world.session)

def World.released (driver : Driver σ) (world : World σ) : World σ :=
  world.noting .closed (driver.release world.clock world.session)

namespace Act

variable {headless : Bool} {act : Act σ α} {world between : World σ}

/-- A session that is not launched is not released either, and nothing is done
in it. -/
theorem withSession_of_refusal {fault : SessionFault}
    (refused : (driver.launch world.clock headless world.session).answer =
      .error fault) :
    withSession driver headless act world =
      (.error (.session fault), world.launched driver headless) := by
  have asked := reply_eq (.opened headless)
    (fun time state => driver.launch time headless state) world
  rw [refused] at asked
  exact bind_of_error asked

/-- A session that was launched is released when the act in it has ended,
whatever came of the act. A fault of the release takes the place of the
result. -/
theorem withSession_of_launch {result : Except Fault α}
    (opens : (driver.launch world.clock headless world.session).answer = .ok ())
    (acted : act (world.launched driver headless) = (result, between)) :
    withSession driver headless act world =
      (match (driver.release between.clock between.session).answer with
        | .ok () => result
        | .error fault =>
            .error (.session fault), between.released driver) := by
  have asked := reply_eq (.opened headless)
    (fun time state => driver.launch time headless state) world
  have ended :=
    reply_eq .closed (fun time state => driver.release time state) between
  rw [opens] at asked
  have opened : withSession driver headless act world =
      ensuring act (reply .closed fun time state => driver.release time state)
        (world.launched driver headless) := bind_of_ok asked
  rw [opened, ensuring, acted]
  dsimp only
  rw [ended]
  cases (driver.release between.clock between.session).answer <;> rfl

/-- What gives a value in a session was done in one that was launched before and
released afterwards. -/
theorem withSession_eq_ok {after : World σ} {value : α}
    (ended : withSession driver headless act world = (.ok value, after)) :
    ∃ between,
      (driver.launch world.clock headless world.session).answer = .ok () ∧
      act (world.launched driver headless) = (.ok value, between) ∧
      (driver.release between.clock between.session).answer = .ok () ∧
      after = between.released driver := by
  cases opens : (driver.launch world.clock headless world.session).answer with
  | error fault =>
      rw [withSession_of_refusal opens] at ended
      cases ended
  | ok _ =>
      rcases acted : act (world.launched driver headless) with ⟨result, between⟩
      rw [withSession_of_launch opens acted] at ended
      cases closes : (driver.release between.clock between.session).answer with
      | error fault =>
          rw [closes] at ended
          cases ended
      | ok _ =>
          rw [closes] at ended
          cases ended
          exact ⟨between, rfl, rfl, closes, rfl⟩

end Act

/-! ## Records -/

def RunResult.recordAt (result : RunResult) (time : DateTime) : RunRecord where
  flowName := result.name
  baseUrl := result.baseUrl
  passed := result.passed
  failed := result.failed
  total := result.total
  duration := result.duration
  createdAt := Calendar.stampText time

/-- What a recorder is handed: the record, if there is a recorder at all. -/
def Recorder.handed (recorder : Recorder) (record : RunRecord) :
    List RunRecord :=
  match recorder with
  | .absent => []
  | _ => [record]

namespace Runner

theorem received_of_submit (recorder : Recorder) (record : RunRecord)
    (world : World σ) :
    (submit recorder record world).2.received =
      world.received ++ recorder.handed record := by
  have kept : (Frame.keeping (World.received : World σ → _)).AdmitsLogging :=
    Frame.keeping_admitsLogging fun _ _ _ _ => rfl
  cases recorder with
  | absent => exact (List.append_nil _).symm
  | history path =>
      have storing :
          (store path record : Act σ Unit).Within
            (.keeping World.received) := by
        refine within_bind (within_logger kept _) fun _ =>
          within_bind ?_ fun _ => kept.log _ _ _
        intro world
        dsimp only
        split <;> rfl
      exact storing { world with received := world.received ++ [record] }
  | custom refuses =>
      rw [submit, ask_bind, bind_of_ok (change_apply _ world)]
      cases refuses world.received record <;> rfl

/-- A run is recorded by handing its record over, and a refusal is told. -/
theorem allows_record {frame : Frame σ} (admits : frame.AdmitsLogging)
    (runner : Runner) {new : RunRecord} {world : World σ}
    (created : new.createdAt =
      Calendar.stampText (Calendar.ofMoment world.moment)) :
    frame.allows (submit runner.recorder new world).2
      (runner.record new.flowName new.baseUrl new.passed new.failed new.total
        new.duration world).2 := by
  rw [record, now, ask_bind, ← created, ← settle_snd]
  refine allows_of_bind _ (fun result => ?_) world
  cases result with
  | ok _ => exact within_pure _
  | error fault => exact admits.log _ _ _

theorem received_of_record (runner : Runner) (flowName baseUrl : String)
    (passed failed total duration : Int) (world : World σ) :
    (runner.record flowName baseUrl passed failed total duration
        world).2.received =
      world.received ++ runner.recorder.handed ⟨flowName, baseUrl, passed,
        failed, total, duration,
        Calendar.stampText (Calendar.ofMoment world.moment)⟩ := by
  let new : RunRecord := ⟨flowName, baseUrl, passed, failed, total, duration,
    Calendar.stampText (Calendar.ofMoment world.moment)⟩
  have created :
      new.createdAt = Calendar.stampText (Calendar.ofMoment world.moment) :=
    rfl
  have told : World.Calm _ _ :=
    allows_record Frame.calm_admitsTelling.toAdmitsLogging runner created
  exact told.received.trans (received_of_submit runner.recorder new world)

theorem allows_conclude {frame : Frame σ} (admits : frame.AdmitsTelling)
    (runner : Runner) (options : RunOptions) (log : Logger) (result : RunResult)
    (world : World σ) :
    frame.allows
      (runner.record result.name result.baseUrl result.passed result.failed
        result.total result.duration
        (Act.log log .info (finishText result) world).2).2
      (runner.conclude options log result world).2 := by
  obtain ⟨_, told, telling⟩ := total_log log .info (finishText result) world
  have summing :
      (do report options (Report.summary result); return result :
        Act σ RunResult).Within frame :=
    within_bind (within_report admits _) fun _ => within_pure _
  rw [conclude, bind_of_ok telling, telling]
  exact allows_of_bind _ (fun _ => summing) told

/-- What is told of a result hands one record of it to the recorder. -/
theorem received_of_conclude (runner : Runner) (options : RunOptions)
    (log : Logger) (result : RunResult) (world : World σ) :
    (runner.conclude options log result world).2.received = world.received ++
      runner.recorder.handed
        (result.recordAt (Calendar.ofMoment world.moment)) := by
  have calm : world.Calm (Act.log log .info (finishText result) world).2 :=
    calm_log _ _ _ _
  have behind : World.Calm _ (runner.conclude options log result world).2 :=
    allows_conclude Frame.calm_admitsTelling runner options log result world
  rw [behind.received, received_of_record, calm.received, calm.moment]
  rfl

theorem moment_of_conclude (runner : Runner) (options : RunOptions)
    (log : Logger) (result : RunResult) (world : World σ) :
    (runner.conclude options log result world).2.moment = world.moment := by
  have telling : (Frame.keeping (World.moment : World σ → Int)).AdmitsTelling :=
    Frame.keeping_admitsTelling fun _ _ _ _ _ => rfl
  exact within_conclude telling
    (keeping_submit (fun _ _ _ _ _ => rfl) _) options log result world

/-- If a run returns at all, it returns what its session came to. -/
theorem result_of_conclude {runner : Runner} {options : RunOptions}
    {log : Logger} {result told : RunResult} {world after : World σ}
    (concluded : runner.conclude options log result world = (.ok told, after)) :
    told = result := by
  obtain ⟨_, _, _, rest⟩ := bind_eq_ok.mp concluded
  obtain ⟨_, _, _, rest⟩ := bind_eq_ok.mp rest
  obtain ⟨_, _, _, rest⟩ := bind_eq_ok.mp rest
  cases rest
  rfl

/-- With a polite recorder a result is told and recorded, and stays the result
of the run. -/
theorem conclude_of_polite {runner : Runner} (polite : runner.recorder.Polite)
    (options : RunOptions) (log : Logger) (result : RunResult)
    (world : World σ) :
    ∃ after, runner.conclude options log result world = (.ok result, after) ∧
      world.Quiet after ∧
      after.received = world.received ++
        runner.recorder.handed
          (result.recordAt (Calendar.ofMoment after.moment)) := by
  obtain ⟨after, concluding, quiet⟩ :=
    conclude_eq polite options log result world
  have handed := received_of_conclude runner options log result world
  rw [← moment_of_conclude runner options log result world,
    concluding] at handed
  exact ⟨after, concluding, quiet, handed⟩

/-! ## The parts of a run -/

/-- What a run does before its session: the directory for screenshots is made,
and the run is told. Gives the logger of the run and the time. -/
def prepare (runner : Runner) (options : RunOptions) (flow : Flow) :
    Act σ (Logger × Int) := do
  ensureDirectory (runner.contextFor options flow).screenshotDir
  let log ← withContext runLog [("flow", .text flow.name)]
  Act.log log .info (startText flow (runner.contextFor options flow).baseUrl)
  report options
    (Report.header flow.name (runner.contextFor options flow).baseUrl)
  let start ← milliseconds
  return (log, start)

/-- The session of a run that has begun at some time, and the result of the
run. -/
def hold (runner : Runner) (driver : Driver σ) (options : RunOptions)
    (flow : Flow) (log : Logger) (start : Int) : Act σ RunResult := do
  let tally ← withSession driver
      (options.headless.getD runner.settings.headless)
    (runSteps driver (runner.contextFor options flow) options log
      flow.steps.length 1 flow.steps .start)
  let duration ← since start
  return resultOf flow (runner.contextFor options flow) duration tally

theorem runFlow_eq_parts (runner : Runner) (driver : Driver σ)
    (options : RunOptions) (flow : Flow) :
    runner.runFlow driver options flow = (do
      let begun ← runner.prepare options flow
      let result ← runner.hold driver options flow begun.1 begun.2
      runner.conclude options begun.1 result) := by
  simp [runFlow, prepare, hold, conclude]

theorem within_prepare {frame : Frame σ} (admits : frame.AdmitsTelling)
    (runner : Runner) (options : RunOptions) (flow : Flow) :
    (runner.prepare options flow).Within frame :=
  within_bind (admits.makeDirectory _) fun _ =>
    within_bind (within_ask _) fun _ =>
    within_bind (admits.log _ _ _) fun _ =>
      within_bind (within_report admits _) fun _ =>
    within_bind (within_ask _) fun _ => within_pure _

/-- A run that has its directory for screenshots gets as far as its session. -/
theorem prepare_of_creatable {runner : Runner} {options : RunOptions}
    (flow : Flow) {world : World σ} (creatable : (world.files.ensureDirectory
      (options.screenshotDir.getD runner.settings.screenshotDir)).2 = .ok ()) :
    ∃ log start begun,
      runner.prepare options flow world = (.ok (log, start), begun) ∧
      world.Calm begun := by
  obtain ⟨_, made, making⟩ : ∃ done made,
      ensureDirectory (runner.contextFor options flow).screenshotDir world =
        (.ok done, made) := by
    unfold ensureDirectory
    rcases files : world.files.ensureDirectory
      (runner.contextFor options flow).screenshotDir
      with ⟨files, fault | done⟩
    · exact nomatch (congrArg Prod.snd files).symm.trans creatable
    · exact ⟨_, _, rfl⟩
  obtain ⟨_, told, telling⟩ :=
    total_log (made.log.withContext runLog [("flow", .text flow.name)])
      .info (startText flow (runner.contextFor options flow).baseUrl) made
  obtain ⟨_, begun, reporting⟩ := total_report options
    (Report.flat_header flow.name (runner.contextFor options flow).baseUrl) told
  have prepared : runner.prepare options flow world =
      (.ok (made.log.withContext runLog [("flow", .text flow.name)],
        begun.milliseconds), begun) := by
    rw [prepare, bind_of_ok making, withContext, ask_bind, bind_of_ok telling,
      bind_of_ok reporting]
    rfl
  exact ⟨_, _, begun, prepared,
    (within_prepare Frame.calm_admitsTelling _ _ _).allows prepared⟩

theorem prepare_of_blocked {runner : Runner} {options : RunOptions}
    (flow : Flow) {world : World σ} {fault : FileFault}
    (blocked :
      (world.files.ensureDirectory
        (options.screenshotDir.getD runner.settings.screenshotDir)).2 =
      .error fault) :
    ∃ begun, runner.prepare options flow world = (.error (.file fault), begun) ∧
      world.Calm begun := by
  obtain ⟨begun, unmade⟩ : ∃ begun,
      ensureDirectory (runner.contextFor options flow).screenshotDir world =
        (.error (.file fault), begun) := by
    unfold ensureDirectory
    rcases files : world.files.ensureDirectory
      (runner.contextFor options flow).screenshotDir
      with ⟨files, raised | done⟩
    · cases (congrArg Prod.snd files).symm.trans blocked
      exact ⟨_, rfl⟩
    · exact nomatch (congrArg Prod.snd files).symm.trans blocked
  have prepared :
      runner.prepare options flow world = (.error (.file fault), begun) := by
    rw [prepare, bind_of_error unmade]
  exact ⟨begun, prepared,
    (within_prepare Frame.calm_admitsTelling _ _ _).allows prepared⟩

end Runner

end PageFlow
