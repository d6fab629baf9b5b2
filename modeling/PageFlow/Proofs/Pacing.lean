import PageFlow.Proofs.Drift

/-!
# Runs at different paces

Delays change when something happens, never what happens. Whatever the delays
and the random numbers are, a run asks a session that heeds no time for the
same, and every step comes to the same.
-/

namespace PageFlow

open Act FileSystem

variable {σ : Type}

theorem Likeness.drifting_admitsRuns {driver : Driver σ} {directory : Path}
    {alike : σ → σ → Prop} (heedless : driver.Heedless directory alike)
    (known : Nat) (files files' : FileSystem) :
    (drifting directory alike known files files').AdmitsRuns driver
      directory where
  tells _ _ _ := .inl trivial
  setUpLog := by
    have passes (world : World σ) (furnished : world.Furnished directory) :
        ∃ value, (Act.setUpLog world).1 = .ok value :=
      ⟨_, congrArg Prod.fst (setUpLog_of_isSome furnished.ready)⟩
    exact matches_aside_of_ok Frame.aside_admitsTelling.setUpLog
      Frame.aside_admitsTelling.setUpLog passes passes
  log _ _ _ _ _ := matches_aside_of_ok (Frame.aside_admitsTelling.log _ _ _)
    (Frame.aside_admitsTelling.log _ _ _) (fun _ _ => ⟨_, rfl⟩) fun _ _ =>
      ⟨_, rfl⟩
  output _ _ _ _ parallel := ⟨parallel.session, parallel.events, parallel.late,
    ⟨parallel.furnished.ready, parallel.furnished.stands⟩,
    ⟨parallel.furnished'.ready, parallel.furnished'.stands⟩⟩
  launch headless := (matches_reply (.same _) fun time time' _ _ =>
    heedless.launch time time' headless _ _).weaken fun _ _ _ => trivial
  release := (matches_reply (.same _) fun time time' _ _ =>
    heedless.release time time' _ _).weaken fun _ _ _ => trivial
  traced := Frame.tracing_storesIn driver .absent directory known files
  traced' := Frame.tracing_storesIn driver .absent directory known files'

def Outcome.timeless (outcome : Outcome) : Outcome :=
  { outcome with duration := 0, screenshot := none }

/-- A result without what depends on time. -/
def RunResult.timeless (result : RunResult) : RunResult :=
  { result with steps := result.steps.map Outcome.timeless, duration := 0 }

theorem Likeness.SameResult.timeless {like : Likeness σ}
    {first second : RunResult} (same : like.SameResult first second) :
    first.timeless = second.timeless := by
  have steps :
      first.steps.map Outcome.timeless = second.steps.map Outcome.timeless := by
    rw [← List.forall₂_eq_eq_eq, List.forall₂_map_left_iff,
      List.forall₂_map_right_iff]
    refine same.steps.imp fun outcome other told => ?_
    rw [Outcome.timeless, Outcome.timeless, told.step, told.success, told.error]
  rw [RunResult.timeless, RunResult.timeless, steps, same.name, same.baseUrl,
    same.screenshotDir, same.passed, same.failed, same.total]

namespace Runner

def screenshotDir (runner : Runner) (options : RunOptions) : Path :=
  options.screenshotDir.getD runner.settings.screenshotDir

/-- What is done about a run whose session has ended. -/
def finish (runner : Runner) (options : RunOptions)
    (ended : Logger × RunResult) : Act σ RunResult := do
  let result ← runner.conclude options ended.1 ended.2
  if options.json then
    let time ← now
    printDocument (Report.document (Calendar.stampText time) result)
  return result

/-- A run from its session to its end. -/
def complete (runner : Runner) (driver : Driver σ) (options : RunOptions)
    (flow : Flow) : Act σ RunResult := do
  let ended ← attempt driver (runner.contextFor options flow) options
    (options.headless.getD runner.settings.headless) flow
  runner.finish options ended

theorem run_eq_complete (runner : Runner) (driver : Driver σ)
    (options : RunOptions) (source : FlowSource) :
    runner.run driver options source = (do
      let flow ← loadFlow source
      ensureDirectory (runner.screenshotDir options)
      runner.complete driver options flow) := by
  simp [run, runSource, runFlow_eq, undertake, complete, finish, contextFor,
    screenshotDir]

section Beginning

variable {runner : Runner} {driver : Driver σ} {options : RunOptions}
  {source : FlowSource} {flow : Flow} {world : World σ} {made : FileSystem}

theorem loadFlow_of_fst {result : Except Fault Flow}
    (loading : (loadFlow source world).1 = result) :
    loadFlow source world = (result, world) :=
  loading ▸ rfl

theorem run_of_unloaded {fault : Fault}
    (loading : (loadFlow source world).1 = .error fault) :
    runner.run driver options source world = (.error fault, world) := by
  rw [run_eq_complete]
  exact bind_of_error (loadFlow_of_fst loading)

theorem run_of_unmade {fault : FileFault}
    (loading : (loadFlow source world).1 = .ok flow)
    (making : world.files.ensureDirectory (runner.screenshotDir options) =
      (made, .error fault)) :
    runner.run driver options source world =
      (.error (.file fault), { world with files := made }) := by
  rw [run_eq_complete, bind_of_ok (loadFlow_of_fst loading)]
  exact bind_of_error (by rw [Act.ensureDirectory, making])

theorem run_of_made (loading : (loadFlow source world).1 = .ok flow)
    (making : world.files.ensureDirectory (runner.screenshotDir options) =
      (made, .ok ())) :
    runner.run driver options source world =
      runner.complete driver options flow { world with files := made } := by
  rw [run_eq_complete, bind_of_ok (loadFlow_of_fst loading)]
  exact bind_of_ok (by rw [Act.ensureDirectory, making])

end Beginning

theorem within_finish {frame : Frame σ} {runner : Runner}
    (telling : frame.AdmitsTelling)
    (submitting : ∀ record, (submit runner.recorder record).Within frame)
    (options : RunOptions) (ended : Logger × RunResult) :
    (runner.finish options ended).Within frame := by
  refine within_bind (within_bind (telling.log _ _ _) fun _ =>
    within_bind (within_record telling.toAdmitsLogging submitting _ _ _ _ _ _)
      fun _ =>
    within_bind (within_report telling _) fun _ =>
      within_pure _) fun result => ?_
  split
  · exact within_bind (within_ask _) fun time =>
      within_bind (telling.print _) fun _ => within_pure _
  · exact within_pure _

theorem finish_eq {runner : Runner} (polite : runner.recorder.Polite)
    (options : RunOptions) (ended : Logger × RunResult) (world : World σ) :
    (runner.finish options ended world).1 = .ok ended.2 := by
  obtain ⟨after, concluded, -⟩ :=
    conclude_eq polite options ended.1 ended.2 world
  rw [finish, bind_of_ok concluded]
  split <;> rfl

theorem within_submit_aside {directory : Path} (driver : Driver σ)
    (recorder : Recorder) (record : RunRecord) :
    (submit recorder record : Act σ Unit).Within (.aside directory) := by
  refine within_aside (keeping_submit (fun _ _ _ _ _ => rfl) _ _) fun workdir =>
    ?_
  have apart : WritesAside (fun _ => False) workdir directory recorder :=
    ⟨fun _ _ => id, fun _ _ => id⟩
  exact (Frame.upkeep_admitsRuns driver apart).submit record

variable {directory : Path} {alike : σ → σ → Prop} {known : Nat}
  {files files' : FileSystem}

theorem matches_finish {runner : Runner} (driver : Driver σ)
    (polite : runner.recorder.Polite) (options : RunOptions)
    {ended other : Logger × RunResult} {values : RunResult → RunResult → Prop}
    (same : values ended.2 other.2) :
    (runner.finish options ended).Matches (runner.finish options other)
      (.drifting directory alike known files files') values := by
  have within (ended : Logger × RunResult) :
      (runner.finish options ended).Within (.aside directory : Frame σ) :=
    within_finish Frame.aside_admitsTelling (within_submit_aside driver _) _ _
  refine matches_aside (within ended) (within other) fun world twin _ _ => ?_
  rw [finish_eq polite, finish_eq polite]
  exact .ok same

/-- With a directory for its screenshots, a run comes to the same whatever its
delays are. -/
theorem corresponds_complete {runner : Runner} {driver : Driver σ}
    {options : RunOptions} {flow : Flow} {pacing pacing' : Pacing}
    (heedless : driver.Heedless (runner.screenshotDir options) alike)
    (polite : runner.recorder.Polite)
    (sleepable : ∀ step ∈ flow.steps,
      step.Sleepable σ pacing ∧ step.Sleepable σ pacing') :
    ({ runner with pacing := pacing }.complete driver options flow).Corresponds
      ({ runner with pacing := pacing' }.complete driver options flow)
      (.drifting (runner.screenshotDir options) alike known files files')
      fun result result' => result.timeless = result'.timeless := by
  have admits := Likeness.drifting_admitsRuns heedless known files files'
  have traced (files : FileSystem) (pacing : Pacing)
      (ended : Logger × RunResult) :
      ({ runner with pacing := pacing }.finish options ended).Within
        (.tracing (World.StoresIn known files : World σ → Prop)) := by
    have admits :=
      Frame.tracing_storesIn driver runner.recorder
        (runner.screenshotDir options) known
        files
    exact within_finish admits.toAdmitsTelling admits.submit _ _
  have moving (step : Step) (member : step ∈ flow.steps) :
      MovesCorrespond
      (.drifting (runner.screenshotDir options) alike known files files') driver
        ({ runner with pacing := pacing }.contextFor options flow)
          pacing' step := by
    intro move among
    have untroubled :=
      step.moves_untroubled (sleepable step member).1 _ _ move among
    have untroubled' :=
      step.moves_untroubled (sleepable step member).2 _ _ move among
    exact corresponds_makeMove heedless move untroubled untroubled'
  have session := corresponds_attempt admits options options.json
    (options.headless.getD runner.settings.headless) flow moving
  refine session.bind (traced files pacing) (traced files' pacing')
    fun ended other same => ?_
  exact (matches_finish driver polite options same.1.timeless).corresponds

/-- Delays and random numbers change when something happens, never what
happens. -/
theorem run_paced (runner : Runner) (driver : Driver σ) (options : RunOptions)
    (source : FlowSource) (world : World σ) {pacing pacing' : Pacing}
    {random random' : Nat → Int}
    (heedless : driver.Heedless (runner.screenshotDir options) alike)
    (begun : alike world.session world.session)
    (ready : world.log.threshold.isSome) (polite : runner.recorder.Polite)
    (sleepable : ∀ flow, (loadFlow source world).1 = .ok flow →
      ∀ step ∈ flow.steps, step.Sleepable σ pacing ∧ step.Sleepable σ pacing') :
    let first := { runner with pacing := pacing }.run driver options source
      { world with random := random }
    let second := { runner with pacing := pacing' }.run driver options source
      { world with random := random' }
    first.2.StoredIn world.events.length first.2.files →
    second.2.StoredIn world.events.length second.2.files →
      first.1.map RunResult.timeless = second.1.map RunResult.timeless ∧
        List.Forall₂ (SessionEvent.Alike (runner.screenshotDir options))
          first.2.events second.2.events := by
  intro first second stored stored'
  have same :
      List.Forall₂ (SessionEvent.Alike (runner.screenshotDir options))
        world.events
      world.events := List.forall₂_same.mpr fun event _ => .same event
  cases loading : (loadFlow source world).1 with
  | error fault =>
      rw [show first = _ from run_of_unloaded loading,
        show second = _ from run_of_unloaded loading]
      exact ⟨rfl, same⟩
  | ok flow =>
      rcases making : world.files.ensureDirectory (runner.screenshotDir options)
        with
        ⟨made, fault | _⟩
      · rw [show first = _ from run_of_unmade loading making,
          show second = _ from run_of_unmade loading making]
        exact ⟨rfl, same⟩
      · -- From here on both runs are furnished, and drift apart.
        have stands :
            made.find (runner.screenshotDir options) = .ok .directory := by
          have found := find_of_ensureDirectory (congrArg Prod.snd making)
          rwa [making] at found
        have parallel :
            World.Parallel (runner.screenshotDir options) alike
              world.events.length
            { world with random := random, files := made }
            { world with random := random', files := made } :=
          ⟨begun, same, Nat.le_refl _, ⟨ready, stands⟩, ⟨ready, stands⟩⟩
        rw [show first = _ from run_of_made loading making] at stored ⊢
        rw [show second = _ from run_of_made loading making] at stored' ⊢
        obtain ⟨agree, ended⟩ :=
          corresponds_complete heedless polite (sleepable flow loading) _ _
            parallel ⟨.refl _, stored⟩ ⟨.refl _, stored'⟩
        exact ⟨agree.map_eq, ended.events⟩

private theorem heedless_plain : Script.plain.driver.Heedless ⟨.root, []⟩
    fun state state' => state = [] ∧ state' = [] where
  launch := by
    rintro _ _ _ _ _ ⟨rfl, rfl⟩
    exact ⟨rfl, rfl, rfl⟩
  perform := by
    rintro _ _ _ _ _ _ (_ | _ | _) ⟨rfl, rfl⟩
    · exact ⟨rfl, rfl, rfl⟩
    · exact ⟨rfl, rfl, rfl⟩
    · exact ⟨Eq.refl (Except.ok Script.image), rfl, rfl⟩
  release := by
    rintro _ _ _ _ ⟨rfl, rfl⟩
    exact ⟨rfl, rfl, rfl⟩

/-- Delays with bounds in the wrong order. -/
private def hasty : Pacing := ⟨7, 3, 90, 10, true⟩

private theorem pause_of_hasty (world : World σ) :
    ((clickDelay hasty >>= sleepWhole) world).1 = .ok () := by
  have seven : Pacing.within 7 3 (world.random world.drawn) = 7 := by
    have low := Pacing.le_within 7 3 (world.random world.drawn)
    have high := Pacing.within_le 7 3 (world.random world.drawn)
    omega
  have drawn : clickDelay hasty world =
      (.ok (Pacing.within 7 3 (world.random world.drawn)),
        { world with drawn := world.drawn + 1 }) :=
    rfl
  rw [bind_of_ok drawn, seven]
  exact sleepWhole_of_isFinite (by decide +kernel) _

/-- The second run rests in front of the click, and takes its screenshot seven
milliseconds later. -/
theorem run_paced_signup :
    let runner : Runner := ⟨.rehearsal, .absent, .off⟩
    let options := { RunOptions.none with json := true }
    let world := World.rehearsal .plain ⟨[], []⟩
    let source :=
      FlowSource.flow ⟨"Signup", none, none,
        [⟨.click "#go", none, []⟩, ⟨.type "#name" "a", none, []⟩,
          ⟨.screenshot "End", none, []⟩]⟩
    let first := runner.run Script.plain.driver options source world
    let second :=
      { runner with pacing := hasty }.run Script.plain.driver options source
        { world with random := fun n => n }
    first.1.map RunResult.timeless = second.1.map RunResult.timeless ∧
      List.Forall₂ (SessionEvent.Alike ⟨.root, []⟩) first.2.events
        second.2.events := by
  intro runner options world source first second
  have sleepable (flow : Flow) (loaded : (loadFlow source world).1 = .ok flow)
      (step : Step)
      (member : step ∈ flow.steps) :
        step.Sleepable (List (ScriptedFailure × Nat)) .off ∧
        step.Sleepable (List (ScriptedFailure × Nat)) hasty := by
    cases loaded
    simp at member
    rcases member with rfl | rfl | rfl
    · exact ⟨fun _ => rfl, pause_of_hasty⟩
    · exact ⟨trivial, trivial⟩
    · exact ⟨trivial, trivial⟩
  have stored : first.2.StoredIn 0 first.2.files := by
    decide +kernel
  have stored' : second.2.StoredIn 0 second.2.files := by
    decide +kernel
  exact run_paced runner Script.plain.driver options source world heedless_plain
    ⟨rfl, rfl⟩ rfl
    trivial sleepable stored stored'

end Runner

end PageFlow
