import PageFlow.Proofs.Growth

/-!
# Clocks that drift apart

Two runs with different delays soon tell different times, and with them
everything that depends on time differs: the durations, the log and the names of
screenshots. A session that heeds none of these answers both runs alike, move by
move.
-/

namespace PageFlow

open Act FileSystem

variable {σ α β : Type}

/-! ## Sessions that do not heed time -/

/-- Two calls that differ in no more than the delay of a key or the time in the
name of a screenshot. -/
inductive Call.Alike (directory : Path) : Call → Call → Prop where
  | same (call : Call) : Alike directory call call
  | typing (locator text : String) (delay delay' : Int) :
      Alike directory (.typeText locator text delay)
      (.typeText locator text delay')
  | picture (label : String) (time time' : DateTime) :
      Alike directory (.screenshot (Screenshot.path directory label time))
        (.screenshot (Screenshot.path directory label time'))

inductive SessionEvent.Alike (directory : Path) :
    SessionEvent → SessionEvent → Prop where
  | same (event : SessionEvent) : Alike directory event event
  | called {call call' : Call} :
      call.Alike directory call' →
        Alike directory (.called call) (.called call')

/-- Two replies that differ in no more than the time they took. -/
structure Reply.Alike (alike : σ → σ → Prop) (first second : Reply σ α) :
    Prop where
  answer : first.answer = second.answer
  state : alike first.state second.state

/-- A driver heeds neither the time nor the delays of keys nor the names of
screenshots: sessions that are alike answer alike. -/
structure Driver.Heedless (driver : Driver σ) (directory : Path)
    (alike : σ → σ → Prop) : Prop where
  launch : ∀ time time' headless state state', alike state state' →
    (driver.launch time headless state).Alike alike
    (driver.launch time' headless state')
  perform : ∀ time time' call call' state state', call.Alike directory call' →
    alike state state' →
    (driver.perform time call state).Alike alike
    (driver.perform time' call' state')
  release : ∀ time time' state state', alike state state' →
    (driver.release time state).Alike alike (driver.release time' state')

/-! ## Worlds that drift apart -/

/-- The log was set up, and the directory for screenshots stands. -/
structure World.Furnished (directory : Path) (world : World σ) : Prop where
  ready : world.log.threshold.isSome
  stands : world.files.find directory = .ok .directory

/-- The sessions are alike, and so is what happened to them. Since `known`
events it is told where screenshots are put. -/
structure World.Parallel (directory : Path) (alike : σ → σ → Prop) (known : Nat)
    (world other : World σ) : Prop where
  session : alike world.session other.session
  events : List.Forall₂ (SessionEvent.Alike directory) world.events other.events
  late : known ≤ world.events.length
  furnished : world.Furnished directory
  furnished' : other.Furnished directory

theorem World.Parallel.noted {directory : Path} {alike : σ → σ → Prop}
    {known : Nat} {world other : World σ}
    (parallel : world.Parallel directory alike known other)
    {event event' : SessionEvent} (noted : event.Alike directory event')
    {session session' : σ} (related : alike session session')
    {time time' : Int} :
    World.Parallel directory alike known
      { world with
        session := session, events := world.events ++ [event], clock := time }
      { other with
        session := session', events := other.events ++ [event'],
        clock := time' } where
  session := related
  events := List.rel_append parallel.events (.cons noted .nil)
  late := by
    rw [List.length_append]
    exact Nat.le_add_right_of_le parallel.late
  furnished := ⟨parallel.furnished.ready, parallel.furnished.stands⟩
  furnished' := ⟨parallel.furnished'.ready, parallel.furnished'.stands⟩

/-- Worlds drift apart as long as every screenshot has a place in the end. -/
def Likeness.drifting (directory : Path) (alike : σ → σ → Prop) (known : Nat)
    (files files' : FileSystem) : Likeness σ where
  alike := World.Parallel directory alike known
  drifts := True
  sound := World.StoresIn known files
  sound' := World.StoresIn known files'

/-- The session is left alone, and what is needed for screenshots stays. -/
def Frame.aside (directory : Path) : Frame σ where
  allows before after :=
    before.Quiet after ∧
      (before.Furnished directory → after.Furnished directory)
  refl world := ⟨Frame.quiet.refl world, id⟩
  trans first second := ⟨Frame.quiet.trans first.1 second.1, second.2 ∘ first.2⟩

theorem World.Furnished.upkeep {directory : Path} {before after : World σ}
    (furnished : before.Furnished directory)
    (upkept : (Frame.upkeep (fun _ => False) before.files.workdir).allows
      before after) : after.Furnished directory := by
  obtain ⟨aside, extended, -⟩ := upkept ⟨rfl, furnished.ready, fun _ _ => id⟩
  exact ⟨aside.ready, extended.find (.inl rfl) furnished.stands⟩

theorem Act.within_aside {directory : Path} {act : Act σ α}
    (quiet : act.Within .quiet)
    (kept : ∀ workdir, act.Within (.upkeep (fun _ => False) workdir)) :
    act.Within (.aside directory) :=
  fun world => ⟨quiet world, fun furnished => furnished.upkeep (kept _ world)⟩

namespace Frame

variable {directory : Path}

theorem aside_admitsTelling :
    (Frame.aside directory : Frame σ).AdmitsTelling := by
  have quiet : (Frame.quiet : Frame σ).AdmitsTelling := quiet_admitsTelling
  have kept (workdir : Place) :
      (Frame.upkeep (fun _ => False) workdir : Frame σ).AdmitsTelling :=
    upkeep_admitsTelling
  exact {
    makeDirectory := fun path => within_aside (quiet.makeDirectory path)
      fun workdir => (kept workdir).makeDirectory path
    setUpLog :=
      within_aside quiet.setUpLog fun workdir => (kept workdir).setUpLog
    log := fun logger level message =>
        within_aside (quiet.log logger level message)
      fun workdir => (kept workdir).log logger level message
    print := fun text => within_aside (quiet.print text) fun workdir =>
      (kept workdir).print text }

theorem aside_admitsDelays (driver : Driver σ) :
    (Frame.aside directory : Frame σ).AdmitsDelays := by
  have quiet : (Frame.quiet : Frame σ).AdmitsDelays := quiet_admitsDelays
  have kept (workdir : Place) :
      (Frame.upkeep (fun _ => False) workdir : Frame σ).AdmitsDelays := by
    have steps :
        (Frame.upkeep (fun _ => False) workdir).AdmitsSteps driver directory :=
      upkeep_admitsSteps driver fun _ _ => id
    exact steps.toAdmitsDelays
  exact ⟨fun seconds => within_aside (quiet.nap seconds) fun workdir =>
    (kept workdir).nap seconds,
    within_aside quiet.draw fun workdir => (kept workdir).draw⟩

end Frame

namespace Act

variable {directory : Path} {alike : σ → σ → Prop} {known : Nat}
  {files files' : FileSystem} {values : α → β → Prop} {driver : Driver σ}

theorem matches_aside {act : Act σ α} {twin : Act σ β}
    (within : act.Within (.aside directory))
    (within' : twin.Within (.aside directory))
    (agree : ∀ world other : World σ, world.Furnished directory →
      other.Furnished directory →
      Agree values (act world).1 (twin other).1) :
    act.Matches twin (.drifting directory alike known files files') values := by
  intro world other parallel
  obtain ⟨quiet, furnish⟩ := within world
  obtain ⟨quiet', furnish'⟩ := within' other
  refine ⟨agree world other parallel.furnished parallel.furnished', ?_⟩
  have session : (act world).2.session = world.session :=
    congrArg Prod.fst quiet
  have session' : (twin other).2.session = other.session :=
    congrArg Prod.fst quiet'
  refine ⟨?_, ?_, ?_, furnish parallel.furnished, furnish' parallel.furnished'⟩
  · rw [session, session']
    exact parallel.session
  · rw [quiet.events, quiet'.events]
    exact parallel.events
  · rw [quiet.events]
    exact parallel.late

/-- Acts that leave the session alone and always give a value meet, whatever the
values are. -/
theorem matches_aside_of_ok {act : Act σ α} {twin : Act σ β}
    (within : act.Within (.aside directory))
    (within' : twin.Within (.aside directory))
    (passes : ∀ world : World σ, world.Furnished directory → ∃ value,
      (act world).1 = .ok value)
    (passes' : ∀ world : World σ, world.Furnished directory → ∃ value,
      (twin world).1 = .ok value) :
    act.Matches twin (.drifting directory alike known files files')
      anyValues := by
  refine matches_aside within within' fun world other furnished furnished' => ?_
  obtain ⟨value, passed⟩ := passes world furnished
  obtain ⟨value', passed'⟩ := passes' other furnished'
  rw [passed, passed']
  exact .ok trivial

theorem matches_reply {event event' : SessionEvent}
    {asked asked' : Int → σ → Reply σ α} (noted : event.Alike directory event')
    (replies : ∀ time time' state state', alike state state' →
      (asked time state).Alike alike (asked' time' state')) :
    (reply event asked).Matches (reply event' asked')
      (.drifting directory alike known files files') Eq := by
  intro world other parallel
  obtain ⟨answer, state⟩ := replies world.clock other.clock _ _ parallel.session
  rw [Meets, reply_eq, reply_eq, ← answer]
  refine ⟨?_, parallel.noted noted state⟩
  cases (asked world.clock world.session).answer with
  | error fault => exact .error _
  | ok value => exact .ok rfl

/-! ## Steps -/

def answer (driver : Driver σ) (call : Call) : Act σ String :=
  reply (.called call) fun time state => driver.perform time call state

theorem matches_answer (heedless : driver.Heedless directory alike)
    {call call' : Call} (same : call.Alike directory call') :
    (answer driver call).Matches (answer driver call')
      (.drifting directory alike known files files') Eq :=
  matches_reply (.called same) fun time time' _ _ related =>
    heedless.perform time time' _ _ _ _ same related

theorem matches_perform (heedless : driver.Heedless directory alike)
    {call call' : Call} (same : call.Alike directory call')
    (written : ∀ path, call ≠ .screenshot path) :
    (perform driver call).Matches (perform driver call')
      (.drifting directory alike known files files') Eq := by
  refine matches_bind (matches_answer heedless same) ?_
  rintro text _ rfl
  cases same with
  | typing => exact matches_pure rfl
  | picture => exact absurd rfl (written _)
  | same call =>
      cases call with
      | screenshot path => exact absurd rfl (written path)
      | _ => exact matches_pure rfl

theorem writeFile_of_filePlace {path : Path} {place : Place} {world : World σ}
    (free : world.files.filePlace path = .ok place) (data : List UInt8) :
    ∃ written,
      writeFile path data world = (.ok (), { world with files := written }) ∧
      Extends (fun _ => False) world.files written := by
  have writing :
      world.files.write path data =
        .ok (world.files.put place (.file data)) := by
    rw [write, free]
  refine ⟨_, ?_, (widens_write id writing).toExtends⟩
  rw [writeFile, writing]

/-- If a screenshot has a place in the end, its image could be written, and
nothing comes of it but the answer of the session. -/
theorem perform_of_storesIn {label : String} {time : DateTime} {world : World σ}
    (furnished : world.Furnished directory) (late : known ≤ world.events.length)
    (sound :
      (perform driver (.screenshot (Screenshot.path directory label time))
        world).2.StoresIn known files) :
    let call := Call.screenshot (Screenshot.path directory label time)
    ∃ written, perform driver call world =
        ((answer driver call world).1,
          { (answer driver call world).2 with files := written }) ∧
      Extends (fun _ => False) (answer driver call world).2.files written := by
  intro call
  -- The picture has a place in the end. Less stood in its way before, so it had
  -- the place then.
  have events := perform_events driver call world
  have asked : Screenshot.path directory label time ∈
      ((perform driver call world).2.events.drop known).filterMap
        SessionEvent.picture? := by
    rw [events, List.drop_append_of_le_length late, List.filterMap_append]
    exact List.mem_append_right _ (List.mem_singleton.mpr rfl)
  obtain ⟨place, free⟩ := Option.isSome_iff_exists.mp (sound.stored _ asked)
  replace free := eq_ok_of_toOption free
  have grown : Frame.growing.allows world (perform driver call world).2 :=
    (Frame.growing_admitsRuns driver .absent directory).perform call
      ⟨label, time, rfl⟩ world
  have name : Screenshot.fileName label time ≠ ".." :=
    Screenshot.fileName_ne (by decide)
  have before : world.files.filePlace (Screenshot.path directory label time) =
      .ok place :=
    filePlace_of_extends (grown.1.trans sound.extended)
      furnished.stands name free
  have same : (answer driver call world).2.files = world.files := by
    rw [answer, reply_eq]
  rcases ended : answer driver call world with ⟨fault | text, between⟩ <;>
    rw [ended] at same
  · exact ⟨between.files, bind_of_error ended, .refl _⟩
  · rw [← same] at before
    obtain ⟨written, stored, extended⟩ :=
      writeFile_of_filePlace before (Text.encodeUtf8 text)
    exact ⟨written, (bind_of_ok ended).trans (bind_of_ok stored), extended⟩

theorem corresponds_perform_screenshot
    (heedless : driver.Heedless directory alike) (label : String)
    (time time' : DateTime) :
    (perform driver
        (.screenshot (Screenshot.path directory label time))).Corresponds
      (perform driver (.screenshot (Screenshot.path directory label time')))
      (.drifting directory alike known files files') Eq := by
  intro world other parallel sound sound'
  have late : known ≤ other.events.length :=
    parallel.events.length_eq ▸ parallel.late
  obtain ⟨written, ended, extended⟩ :=
    perform_of_storesIn parallel.furnished parallel.late sound
  obtain ⟨written', ended', extended'⟩ :=
    perform_of_storesIn parallel.furnished' late sound'
  obtain ⟨agree, parallel⟩ :=
    matches_answer heedless (.picture label time time') world other parallel
  rw [Meets, ended, ended']
  exact ⟨agree, parallel.session, parallel.events, parallel.late,
    ⟨parallel.furnished.ready,
      extended.find (.inl rfl) parallel.furnished.stands⟩,
    ⟨parallel.furnished'.ready,
      extended'.find (.inl rfl) parallel.furnished'.stands⟩⟩

def announce (path : Path) : Act σ Path := do
  Act.log (Logger.named "stepflow.capture.screenshot") .debug
    ("Saved screenshot: " ++ path.text)
  return path

theorem capture_of_furnished {world : World σ}
    (furnished : world.Furnished directory) (label : String) :
    let path := Screenshot.path directory label (Calendar.ofMoment world.moment)
    capture driver directory label none world =
      (perform driver (.screenshot path) >>= fun _ => announce path) world := by
  intro path
  have stands : ensureDirectory path.parent world = (.ok (), world) := by
    rw [parent_path, ensureDirectory, ensureDirectory_of_find furnished.stands]
  rw [capture, bind_of_ok (logger_of_isSome furnished.ready _), now, ask_bind]
  exact bind_of_ok stands

theorem corresponds_capture (heedless : driver.Heedless directory alike)
    (label : String) :
    (capture driver directory label none).Corresponds
        (capture driver directory label none)
      (.drifting directory alike known files files') anyValues := by
  have announced {frame : Frame σ} (admits : frame.AdmitsTelling)
      (path : Path) :
      (announce path : Act σ Path).Within frame :=
    within_bind (admits.log _ _ _) fun _ => within_pure _
  have traced (files : FileSystem) :
      (Frame.tracing (World.StoresIn known files : World σ →
        Prop)).AdmitsTelling :=
    (Frame.tracing_storesIn driver .absent directory known
      files).toAdmitsTelling
  intro world other parallel sound sound'
  rw [capture_of_furnished parallel.furnished] at sound
  rw [capture_of_furnished parallel.furnished'] at sound'
  rw [Meets, capture_of_furnished parallel.furnished,
    capture_of_furnished parallel.furnished']
  refine (corresponds_perform_screenshot heedless label _ _).bind
    (fun _ => announced (traced files) _) (fun _ => announced (traced files') _)
    (fun _ _ _ => ?_)
    world other parallel sound sound'
  exact (matches_aside_of_ok (announced Frame.aside_admitsTelling _)
    (announced Frame.aside_admitsTelling _) (fun _ _ => ⟨_, rfl⟩) fun _ _ =>
    ⟨_, rfl⟩).corresponds

end Act

/-! ## Moves -/

/-- A move by itself asks for no screenshot, and its naps are never refused. -/
def Move.Untroubled (σ : Type) (pacing : Pacing) : Move → Prop
  | .call asked => ∀ path, asked ≠ .screenshot path
  | .pause =>
      ∀ world : World σ, ((clickDelay pacing >>= sleepWhole) world).1 = .ok ()
  | .rest ms => ∀ world : World σ, (sleep ms world).1 = .ok ()
  | _ => True

theorem Step.moves_untroubled (step : Step) {pacing : Pacing}
    (sleepable : step.Sleepable σ pacing) (settings : Settings)
    (baseUrl : String) :
    ∀ move ∈ step.moves settings baseUrl, move.Untroubled σ pacing := by
  intro move member
  unfold Step.moves at member
  unfold Step.Sleepable at sleepable
  cases action : step.action <;>
    simp only [action, List.mem_cons, List.not_mem_nil, or_false,
      List.mem_append, List.mem_map] at member sleepable
  case type selector text =>
    rcases member with (rfl | rfl | rfl) | ⟨c, _, rfl⟩ <;>
      simp [Move.Untroubled]
  case click selector =>
    rcases member with rfl | rfl | rfl <;> simp [Move.Untroubled]
    exact sleepable
  case wait ms =>
    subst member
    exact sleepable
  all_goals
    rcases member with rfl | rfl | rfl <;> simp [Move.Untroubled]

namespace Act

variable {directory : Path} {alike : σ → σ → Prop} {known : Nat}
  {files files' : FileSystem} {driver : Driver σ}

/-- Whatever the delays are, a move comes to the same in both runs. -/
theorem corresponds_makeMove {context : StepContext} {pacing : Pacing}
    (heedless : driver.Heedless context.screenshotDir alike) (move : Move)
    (untroubled : move.Untroubled σ context.pacing)
    (untroubled' : move.Untroubled σ pacing) :
    let like : Likeness σ :=
      .drifting context.screenshotDir alike known files files'
    (makeMove driver context move).Corresponds
      (makeMove driver { context with pacing := pacing } move) like
        like.Near := by
  intro like
  have any (value other : Option Path) : like.Near value other := .inl trivial
  have delays : (Frame.aside context.screenshotDir : Frame σ).AdmitsDelays :=
    Frame.aside_admitsDelays driver
  have nothing :
      (pure none : Act σ (Option Path)).Matches (pure none) like like.Near :=
    matches_pure (any _ _)
  cases move with
  | call call =>
      exact (matches_bind (matches_perform heedless (.same call) untroubled)
        fun _ _ _ =>
        nothing).corresponds
  | pause =>
      have opened (context : StepContext) : makeMove driver context .pause =
          (clickDelay context.pacing >>= sleepWhole) >>= fun _ =>
            pure none := by
        simp [makeMove]
      have pausing (pacing : Pacing) :
          (clickDelay pacing >>= sleepWhole : Act σ Unit).Within
          (.aside context.screenshotDir) :=
        within_bind (within_delay delays _ _ _) fun _ =>
          within_sleepWhole delays _
      rw [opened, opened]
      exact (matches_bind
        (matches_aside_of_ok (pausing _) (pausing _)
          (fun world _ => ⟨_, untroubled world⟩) fun world _ =>
          ⟨_, untroubled' world⟩) fun _ _ _ => nothing).corresponds
  | key locator character =>
      have chosen (pacing : Pacing) (world : World σ)
          (_ : world.Furnished context.screenshotDir) :
          ∃ ms, (keyDelay pacing world).1 = .ok ms := by
        obtain ⟨between, drawn, -⟩ := keyDelay_eq pacing world
        exact ⟨_, congrArg Prod.fst drawn⟩
      refine (matches_bind (matches_aside_of_ok (within_delay delays _ _ _)
        (within_delay delays _ _ _) (chosen _) (chosen _)) fun ms ms' _ =>
          ?_).corresponds
      exact matches_bind
        (matches_perform heedless (.typing _ _ ms ms') (by simp))
        fun _ _ _ => nothing
  | picture label =>
      exact (corresponds_capture heedless label).bind (fun _ => within_pure _)
        (fun _ => within_pure _) fun _ _ _ =>
          (matches_pure (any _ _)).corresponds
  | check locator expected =>
      refine (matches_bind (matches_perform heedless (.same _) (by simp))
        ?_).corresponds
      rintro found _ rfl
      split
      · exact nothing
      · exact matches_fail _
  | rest ms =>
      exact (matches_bind
        (matches_aside_of_ok (within_sleep delays _) (within_sleep delays _)
          (fun world _ => ⟨_, untroubled world⟩) fun world _ =>
          ⟨_, untroubled' world⟩) fun _ _ _ => nothing).corresponds
  | refuse reason raw =>
      rw [makeMove, makeMove, refuse_eq]
      exact (matches_fail _).corresponds

theorem nap_of_isFinite {seconds : Decimal.Binary64}
    (finite : (seconds.mulNat 1000000000).isFinite) (world : World σ) :
    (nap seconds world).1 = .ok () := by
  unfold nap
  cases product : seconds.mulNat 1000000000 with
  | finite negative units => rfl
  | _ =>
      rw [product] at finite
      cases finite

theorem sleepWhole_of_isFinite {ms : Int}
    (finite :
      (((Decimal.Binary64.ofInt ms).divNat 1000).mulNat 1000000000).isFinite)
    (world : World σ) : (sleepWhole ms world).1 = .ok () := by
  unfold sleepWhole
  split
  · rfl
  · cases size : Decimal.Binary64.ofInt ms with
    | infinite negative =>
        rw [size] at finite
        cases finite
    | _ =>
        rw [size] at finite
        exact nap_of_isFinite finite world

end Act

end PageFlow
