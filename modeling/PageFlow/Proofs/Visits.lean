import PageFlow.Proofs.Turns
import PageFlow.Runner.Smoke

/-!
# Visits

Whatever is asked of a runner one after another, and whatever goes wrong
meanwhile, its sessions are held one at a time. An errand that gets as far as
its session asks for one, once; if it is launched, it is called and then
released, once, and nothing of the errand comes behind its release.
-/

namespace PageFlow

open Act

variable {σ α : Type} {driver : Driver σ} {runner : Runner}
  {options : RunOptions}

/-! ## Requests and errands -/

/-- Something that is asked of a runner, or else happens meanwhile: time goes
by, files and settings come and go. No sessions are held then. -/
inductive Request (σ : Type) where
  | run (options : RunOptions) (source : FlowSource)
  | runAll (options : RunOptions) (sources : List FlowSource)
  | smoke (url : String) (timeout : Option Int) (headless : Option Bool)
  | meanwhile (change : World σ → World σ)

/-- The world behind a request, whatever came of it. -/
def Runner.serve (runner : Runner) (driver : Driver σ) (world : World σ) :
    Request σ → World σ
  | .run options source => (runner.run driver options source world).2
  | .runAll options sources => (runner.runAll driver options sources world).2
  | .smoke url timeout headless =>
      (runner.smoke driver url timeout headless world).2
  | .meanwhile change => { change world with events := world.events }

/-- What may need a session, and the world in which it is begun: a flow, or the
page of a smoke test. -/
inductive Errand (σ : Type) where
  | flow (options : RunOptions) (source : FlowSource) (start : World σ)
  | page (headless : Option Bool) (start : World σ)

/-- The errands of a request: for a batch, those of its turns. -/
def Request.errands (runner : Runner) (driver : Driver σ) (world : World σ) :
    Request σ → List (Errand σ)
  | .run options source => [.flow options source world]
  | .runAll options sources =>
    (Turn.all (runner.runSource driver options) options sources world).map
      fun turn =>
      .flow options turn.source turn.before
  | .smoke _ _ headless => [.page headless world]
  | .meanwhile _ => []

/-- The errands of requests that are served one after another. -/
def Runner.errands (runner : Runner) (driver : Driver σ) :
    List (Request σ) → World σ → List (Errand σ)
  | [], _ => []
  | request :: rest, world =>
    request.errands runner driver world ++ runner.errands driver rest
      (runner.serve driver world request)

namespace Errand

def start : Errand σ → World σ
  | .flow _ _ start => start
  | .page _ start => start

def headless (runner : Runner) : Errand σ → Bool
  | .flow options _ _ => options.headless.getD runner.settings.headless
  | .page headless _ => headless.getD runner.settings.headless

/-- A flow gets as far as its session if it loads and its directory for
screenshots can be made. A smoke test always does. -/
def Begins (runner : Runner) : Errand σ → Prop
  | .flow options source start =>
    (∃ flow, (Runner.loadFlow source start).1 = .ok flow) ∧
      (start.files.ensureDirectory
        (options.screenshotDir.getD runner.settings.screenshotDir)).2 = .ok ()
  | .page _ _ => True

/-- What the driver says when it is asked for the session of an errand. -/
def answer (runner : Runner) (driver : Driver σ) (errand : Errand σ) :
    Except SessionFault Unit :=
  (driver.launch errand.start.clock (errand.headless runner)
    errand.start.session).answer

/-- The events that an errand may leave: none at all before its session, the
question for a session that was refused, or all of a session that was
launched. -/
inductive Leaves (runner : Runner) (driver : Driver σ) (errand : Errand σ) :
    List SessionEvent → Prop where
  | nothing : ¬ errand.Begins runner → Leaves runner driver errand []
  | refusal {fault : SessionFault} :
      errand.Begins runner →
      errand.answer runner driver = .error fault →
      Leaves runner driver errand [.opened (errand.headless runner)]
  | session (calls : List Call) :
      errand.Begins runner →
      errand.answer runner driver = .ok () →
      Leaves runner driver errand
        (.opened (errand.headless runner) :: calls.map .called ++ [.closed])

/-- A session in which there is nothing but calls is all that its errand
leaves. -/
theorem leaves_withSession (driver : Driver σ) {errand : Errand σ}
    (begins : errand.Begins runner) {begun : World σ}
    (calm : errand.start.Calm begun) {act : Act σ α}
    (inner : act.Within .calling) :
    ∃ trace, errand.Leaves runner driver trace ∧
      (withSession driver (errand.headless runner) act begun).2.events =
        errand.start.events ++ trace := by
  -- The driver is asked in the world behind the preparation, but knows of it no
  -- more than of the start.
  have asked : errand.answer runner driver =
      (driver.launch begun.clock (errand.headless runner)
        begun.session).answer := by
    rw [answer, calm.clock, calm.session]
  cases said : errand.answer runner driver with
  | error fault =>
      refine ⟨_, .refusal begins said, ?_⟩
      rw [withSession_of_refusal (asked.symm.trans said), ← calm.quiet.events]
      rfl
  | ok _ =>
      rcases acted : act (begun.launched driver (errand.headless runner))
        with ⟨result, between⟩
      obtain ⟨calls, called⟩ := inner.allows acted
      refine ⟨_, .session calls begins said, ?_⟩
      rw [withSession_of_launch (asked.symm.trans said) acted]
      change between.events ++ [.closed] = _
      rw [called, World.launched, World.noting, calm.quiet.events]
      simp

end Errand

/-! ## Single errands -/

namespace Runner

/-- In the session of a flow there is nothing but calls. -/
theorem calling_runSteps (driver : Driver σ) (context : StepContext)
    (options : RunOptions) (log : Logger) (total index : Nat)
    (steps : List Step) (tally : Tally) :
    (runSteps driver context options log total index steps tally).Within
      .calling :=
  within_runSteps_of_report (Frame.calling_admitsSteps driver _)
    (within_report (Frame.quiet_admitsTelling.weaken Frame.calling_of_quiet))
    _ _ _ _ _

theorem calling_pageError (driver : Driver σ) (url : String) (timeout : Int) :
    (pageError driver url timeout).Within .calling := by
  have calling (call : Call) : (perform driver call).Within .calling :=
    fun world => ⟨[call], perform_events driver call world⟩
  have inspecting : (inspectPage driver url timeout).Within .calling :=
    within_bind (calling _) fun _ => within_bind (calling _) fun _ =>
      within_bind (calling _) fun _ => within_pure _
  refine within_bind (within_settle inspecting) fun result => ?_
  cases result with
  | ok complaint => exact within_pure _
  | error fault => exact within_pure _

theorem quiet_runFlow_behind (runner : Runner) (driver : Driver σ)
    (options : RunOptions) (flow : Flow) (log : Logger) (time : Int)
    (world : World σ) :
    World.Quiet
      (withSession driver (options.headless.getD runner.settings.headless)
        (runSteps driver (runner.contextFor options flow) options log
          flow.steps.length 1 flow.steps .start) world).2
      ((runner.hold driver options flow log time >>=
        runner.conclude options log) world).2 := by
  have measuring :
      World.Quiet _ (runner.hold driver options flow log time world).2 :=
    allows_of_bind _ (fun _ => within_bind (within_ask _) fun _ =>
      within_pure _) world
  have concluding :
      World.Quiet (runner.hold driver options flow log time world).2
      ((runner.hold driver options flow log time >>=
        runner.conclude options log) world).2 :=
    allows_of_bind _ (quiet_conclude runner options log) world
  exact Frame.quiet.trans measuring concluding

theorem runSource_leaves (runner : Runner) (driver : Driver σ)
    (options : RunOptions) (source : FlowSource) (world : World σ) :
    ∃ trace, (Errand.flow options source world).Leaves runner driver trace ∧
      (runner.runSource driver options source world).2.events =
        world.events ++ trace := by
  rcases loads : (loadFlow source world).1 with fault | flow
  · have loading : loadFlow source world = (.error fault, world) :=
      Prod.ext loads rfl
    refine ⟨[], .nothing fun begins => ?_, ?_⟩
    · obtain ⟨⟨flow, loaded⟩, _⟩ := begins
      cases loads.symm.trans loaded
    · rw [runSource, bind_of_error loading, List.append_nil]
  have loading : loadFlow source world = (.ok flow, world) := Prod.ext loads rfl
  rw [runSource, bind_of_ok loading, runFlow_eq_parts]
  rcases made : (world.files.ensureDirectory
    (options.screenshotDir.getD runner.settings.screenshotDir)).2 with fault | _
  · obtain ⟨begun, preparing, calm⟩ := prepare_of_blocked flow made
    refine ⟨[], .nothing fun begins => ?_, ?_⟩
    · cases made.symm.trans begins.2
    · rw [bind_of_error preparing, calm.quiet.events, List.append_nil]
  · obtain ⟨log, time, begun, preparing, calm⟩ := prepare_of_creatable flow made
    have begins : (Errand.flow options source world).Begins runner :=
      ⟨⟨flow, loads⟩, made⟩
    obtain ⟨trace, leaves, events⟩ :=
      Errand.leaves_withSession driver begins calm
        (calling_runSteps driver (runner.contextFor options flow)
          options log _ _ _ _)
    refine ⟨trace, leaves, ?_⟩
    rw [bind_of_ok preparing, (quiet_runFlow_behind _ _ _ _ _ _ begun).events]
    exact events

theorem smoke_leaves (runner : Runner) (driver : Driver σ) (url : String)
    (timeout : Option Int) (headless : Option Bool) (world : World σ) :
    ∃ trace, (Errand.page headless world).Leaves runner driver trace ∧
      (runner.smoke driver url timeout headless world).2.events =
        world.events ++ trace := by
  have begins : (Errand.page headless world).Begins runner := trivial
  obtain ⟨trace, leaves, events⟩ :=
    Errand.leaves_withSession driver begins (Frame.refl _ world)
      (calling_pageError driver url (timeout.getD runner.settings.smokeTimeout))
  refine ⟨trace, leaves, Eq.trans (World.Quiet.events ?_) events⟩
  rw [smoke, milliseconds, ask_bind]
  refine allows_of_bind _
    (fun error => within_bind (within_ask _) fun duration => ?_) world
  refine within_bind (within_printReport Frame.quiet_admitsTelling _) fun _ =>
    ?_
  exact within_bind (quiet_record runner _ _ _ _ _ _) fun _ => within_pure _

/-! ## Requests -/

/-- The turns of a batch leave what their errands may leave, one behind the
other. -/
theorem turns_leave (runner : Runner) (driver : Driver σ) (options : RunOptions)
    (sources : List FlowSource) (world : World σ) :
    let turns :=
      Turn.all (runner.runSource driver options) options sources world
    ∃ traces,
      List.Forall₂ (Errand.Leaves runner driver)
        (turns.map fun turn => .flow options turn.source turn.before) traces ∧
      (Turn.behind world turns).events = world.events ++ traces.flatten := by
  -- Every turn starts in the world that the one before has left, which the line
  -- of the log keeps calm.
  induction sources generalizing world with
  | nil => exact ⟨[], .nil, (List.append_nil _).symm⟩
  | cons source sources induction =>
      obtain ⟨trace, leaves, events⟩ :=
        runSource_leaves runner driver options source world
      let turn := Turn.take (runner.runSource driver options) source world
      have left : turn.left.events = world.events ++ trace :=
        turn.calm_left.quiet.events.trans events
      rcases Turn.all_cons (runner.runSource driver options) options source
        sources world with none | ⟨-, one⟩ | ⟨-, more⟩
      · rw [none]
        exact ⟨[], .nil, (List.append_nil _).symm⟩
      · rw [one]
        refine ⟨[trace], .cons leaves .nil, ?_⟩
        rw [List.flatten_singleton]
        exact left
      · obtain ⟨traces, leave, behind⟩ := induction turn.left
        rw [more]
        refine ⟨trace :: traces, .cons leaves leave, ?_⟩
        rw [List.flatten_cons, ← List.append_assoc, ← left]
        exact behind

theorem serve_leaves (runner : Runner) (driver : Driver σ) (request : Request σ)
    (world : World σ) :
    ∃ traces,
      List.Forall₂ (Errand.Leaves runner driver)
        (request.errands runner driver world) traces ∧
      (runner.serve driver world request).events =
        world.events ++ traces.flatten := by
  cases request with
  | run options source =>
      obtain ⟨trace, leaves, events⟩ :=
        runSource_leaves runner driver options source world
      obtain ⟨output, ran⟩ := run_eq_printed runner driver options source world
      refine ⟨[trace], .cons leaves .nil, ?_⟩
      rw [serve, ran, List.flatten_singleton]
      exact events
  | runAll options sources =>
      obtain ⟨traces, leave, events⟩ :=
        turns_leave runner driver options sources world
      obtain ⟨output, ran⟩ :=
        runAll_eq_printed runner driver options sources world
      refine ⟨traces, leave, ?_⟩
      rw [serve, ran, runEach_eq_turns]
      exact events
  | smoke url timeout headless =>
      obtain ⟨trace, leaves, events⟩ :=
        smoke_leaves runner driver url timeout headless world
      refine ⟨[trace], .cons leaves .nil, ?_⟩
      rw [List.flatten_singleton]
      exact events
  | meanwhile change => exact ⟨[], .nil, (List.append_nil _).symm⟩

/-- Whatever is asked of a runner one after another, and whatever the driver and
the recorder do, the events of sessions are those of its errands, one behind the
other. An errand that begins asks for one session, and what was launched is
called and then released, once. -/
theorem requests_hold_sessions_in_turn (runner : Runner) (driver : Driver σ)
    (requests : List (Request σ)) (world : World σ) :
    ∃ traces,
      List.Forall₂ (Errand.Leaves runner driver)
        (runner.errands driver requests world) traces ∧
      (requests.foldl (runner.serve driver) world).events =
        world.events ++ traces.flatten := by
  induction requests generalizing world with
  | nil => exact ⟨[], .nil, (List.append_nil _).symm⟩
  | cons request requests induction =>
      obtain ⟨traces, leave, events⟩ := serve_leaves runner driver request world
      obtain ⟨later, leaveLater, eventsLater⟩ :=
        induction (runner.serve driver world request)
      refine ⟨traces ++ later, List.rel_append leave leaveLater, ?_⟩
      rw [List.foldl_cons, eventsLater, events, List.flatten_append,
        List.append_assoc]

end Runner

end PageFlow
