import PageFlow.Proofs.LogSetup
import PageFlow.Proofs.Recital

/-!
# Scripts of steps

A step asks the driver for the calls of its script, which depends on the step,
the settings, the base address, the time and the random numbers alone. The first
call that fails ends the script, and what comes of the step is read off the
answers.
-/

namespace PageFlow

open Act

variable {σ α β : Type} {driver : Driver σ} {context : StepContext}

/-! ## Delays -/

/-- The random numbers of a world and how many of them are in use. -/
def World.pace (world : World σ) : (Nat → Int) × Nat :=
  (world.random, world.drawn)

/-- The delays of the keys that are typed next. -/
def World.keyDelays (world : World σ) (pacing : Pacing) (index : Nat) : Int :=
  if pacing.enabled then
    Pacing.within pacing.keyLeast pacing.keyMost
      (world.random (world.drawn + index))
  else 0

theorem World.keyDelays_of_pace {world between : World σ}
    (same : between.pace = world.pace) (pacing : Pacing) :
    between.keyDelays pacing = world.keyDelays pacing := by
  have random : between.random = world.random := congrArg Prod.fst same
  have drawn : between.drawn = world.drawn := congrArg Prod.snd same
  funext index
  rw [keyDelays, keyDelays, random, drawn]

theorem Act.perform_pace {call : Call} {world between : World σ}
    {answer : Except Fault String}
    (asked : perform driver call world = (answer, between)) :
    between.pace = world.pace := by
  have within : (perform driver call).Within (.keeping World.pace) := by
    refine within_perform ?_ ?_
    · intro world
      simp only [reply]
      split <;> rfl
    · intro path data _ world
      unfold writeFile
      split <;> rfl
  have kept := within world
  rwa [asked] at kept

/-- The delay of a key is the first one, and the later delays move up. -/
theorem Act.keyDelay_eq (pacing : Pacing) (world : World σ) :
    ∃ between,
      keyDelay pacing world = (.ok (world.keyDelays pacing 0), between) ∧
      world.Quiet between ∧
      ∀ index,
        between.keyDelays pacing index =
          world.keyDelays pacing (index + 1) := by
  cases enabled : pacing.enabled with
  | true =>
      refine ⟨{ world with drawn := world.drawn + 1 }, ?_, rfl, ?_⟩
      · rw [keyDelay, delay, enabled, World.keyDelays, enabled]
        rfl
      · intro index
        simp only [World.keyDelays, enabled, if_true]
        rw [Nat.add_right_comm, Nat.add_assoc]
  | false =>
      refine ⟨world, ?_, rfl, ?_⟩
      · simp [keyDelay, delay, World.keyDelays, enabled]
      · intro index
        simp [World.keyDelays, enabled]

theorem Frame.quiet_admitsDelays : (Frame.quiet : Frame σ).AdmitsDelays :=
  keeping_admitsDelays fun _ _ _ _ => rfl

/-- The naps that a step asks for are never refused. -/
def Step.Sleepable (σ : Type) (pacing : Pacing) (step : Step) : Prop :=
  match step.action with
  | .wait ms => ∀ world : World σ, (sleep ms world).1 = .ok ()
  | .click _ =>
      ∀ world : World σ, ((clickDelay pacing >>= sleepWhole) world).1 = .ok ()
  | _ => True

/-! ## The log -/

theorem Act.quiet_setUpLog (world : World σ) : world.Quiet (setUpLog world).2 :=
  Frame.quiet_admitsTelling.setUpLog world

theorem Act.quiet_log (logger : Logger) (level : LogLevel) (message : String)
    (world : World σ) :
    world.Quiet (log logger level message world).2 :=
  Frame.quiet_admitsTelling.log logger level message world

/-! ## Scripts -/

def Step.refusal (reason : String) (raw : List (Value × Value)) : Fault :=
  if reason.isEmpty then
    match Value.jsonText? (.dict raw) with
    | .ok text => .unmet ("Unknown step type: " ++ text)
    | .error fault => .reason fault
  else .unmet reason

theorem Act.refuse_eq (reason : String) (raw : List (Value × Value)) :
    (refuse reason raw : Act σ α) = fail (Step.refusal reason raw) := by
  unfold refuse Step.refusal
  cases Value.jsonText? (.dict raw) <;> split <;> rfl

/-- What is said of the text that was found. -/
def Verification.examine (expected found : String) :
    Except Fault (Option Path) :=
  if holds expected found then .ok none
    else .error (.unmet (complaint expected found))

namespace Step

/-- How long a step waits for the page: its own limit if it has one, even zero,
else the usual one. -/
def patience (step : Step) (usual : Nat) : Int :=
  match step.timeout with
  | some limit => limit
  | none => usual

theorem limit_eq (step : Step) (usual : Nat) :
    step.limit usual = step.patience usual := by
  unfold limit patience
  cases step.timeout <;> rfl

/-- The calls that a step asks for. `picture` is the path for a label, and
`delays` are those of the keys in order. -/
def script (settings : Settings) (baseUrl : String) (picture : String → Path)
    (delays : Nat → Int) (step : Step) : List Call :=
  match step.action with
  | .navigate url =>
      [.goto (Locator.resolveUrl url baseUrl)
        (step.patience settings.navigationTimeout)]
  | .click selector =>
      [.waitFor (Locator.ofSelector selector) .visible
        (step.patience settings.actionTimeout),
        .click (Locator.ofSelector selector)]
  | .type selector text =>
      [.waitFor (Locator.ofSelector selector) .visible
        (step.patience settings.actionTimeout),
        .click (Locator.ofSelector selector),
        .clear (Locator.ofSelector selector)] ++
        text.toList.mapIdx fun index c =>
          .typeText (Locator.ofSelector selector) c.toString (delays index)
  | .waitFor selector =>
      [.waitFor (Locator.ofSelector selector) .visible
        (step.patience settings.waitForTimeout)]
  | .screenshot label => [.screenshot (picture label)]
  | .verify selector _ =>
      [.waitFor (Locator.ofSelector selector) .attached
        (step.patience settings.actionTimeout),
        .textContent (Locator.ofSelector selector)]
  | .wait _ => []
  | .scroll selector =>
      [.waitFor (Locator.ofSelector selector) .attached
        (step.patience settings.waitForTimeout),
        .scrollIntoView (Locator.ofSelector selector)]
  | .hover selector =>
      [.waitFor (Locator.ofSelector selector) .visible
        (step.patience settings.actionTimeout),
        .hover (Locator.ofSelector selector)]
  | .select selector value =>
      [.waitFor (Locator.ofSelector selector) .attached
        (step.patience settings.actionTimeout),
        .selectOption (Locator.ofSelector selector) value]
  | .press key => [.pressKey key]
  | .evaluate text => [.evaluate text]
  | .malformed _ => []

/-- What comes of a step when every call was answered: a picture gives its path,
a text that was found is examined, and a malformed step is refused. -/
def verdict (picture : String → Path) (step : Step) (answers : List String) :
    Except Fault (Option Path) :=
  match step.action with
  | .screenshot label => .ok (some (picture label))
  | .verify _ expected => Verification.examine expected (answers.getLastD "")
  | .malformed reason => .error (refusal reason step.raw)
  | _ => .ok none

end Step

namespace Act

variable {world : World σ} {script : List Call}
  {judge : List String → Except Fault (Option Path)}

theorem makeMoves_cons (driver : Driver σ) (context : StepContext) (move : Move)
    (moves : List Move) :
    makeMoves driver context (move :: moves) = (do
      let picture ← makeMove driver context move
      let later ← makeMoves driver context moves
      return picture.or later) :=
  rfl

theorem speaks_nil :
    (makeMoves driver context []).Speaks driver world [] fun _ => .ok none :=
  speaks_of_quiet rfl rfl

private theorem map_or_none (act : Act σ (Option Path)) :
    Option.or none <$> act = act := by
  have same : (Option.or none : Option Path → Option Path) = id := by
    funext later
    rfl
  rw [same, id_map]

theorem makeMoves_call (driver : Driver σ) (context : StepContext) (call : Call)
    (moves : List Move) :
    makeMoves driver context (.call call :: moves) =
      perform driver call >>= fun _ => makeMoves driver context moves := by
  simp [makeMoves, makeMove, map_or_none]

/-- Calls at the front of the moves are calls at the front of the script. -/
theorem speaks_calls (calls : List Call) {moves : List Move}
    (later : ∀ between : World σ, between.pace = world.pace →
      (makeMoves driver context moves).Speaks driver between script judge) :
    (makeMoves driver context (calls.map .call ++ moves)).Speaks driver world
        (calls ++ script)
      fun answers => judge (answers.drop calls.length) := by
  induction calls generalizing world with
  | nil => exact later world rfl
  | cons call calls induction =>
      rw [List.map_cons, List.cons_append, makeMoves_call]
      refine speaks_of_perform fun answer between asked => ?_
      exact induction fun last same =>
        later last (same.trans (perform_pace asked))

theorem speaks_only_calls (calls : List Call) :
    (makeMoves driver context (calls.map .call)).Speaks driver world calls
      fun _ => .ok none := by
  have nothing (between : World σ) (_ : between.pace = world.pace) :
      (makeMoves driver context []).Speaks driver between [] fun _ =>
        .ok none :=
    speaks_nil
  simpa using speaks_calls calls nothing

theorem speaks_keys (locator : String) (text : List Char) :
    (makeMoves driver context
        (text.map fun c => .key locator c.toString)).Speaks driver world
      (text.mapIdx fun index c =>
        .typeText locator c.toString (world.keyDelays context.pacing index))
      fun _ => .ok none := by
  induction text generalizing world with
  | nil => exact speaks_nil
  | cons c text induction =>
      obtain ⟨between, drawn, quiet, moved⟩ := keyDelay_eq context.pacing world
      have opened :
          makeMoves driver context
            ((c :: text).map fun c => .key locator c.toString) =
          keyDelay context.pacing >>= fun ms =>
            perform driver (.typeText locator c.toString ms) >>= fun _ =>
              makeMoves driver context
                (text.map fun c => .key locator c.toString) := by
        simp [makeMoves, makeMove, map_or_none]
      rw [opened, List.mapIdx_cons]
      refine speaks_after_quiet drawn quiet
        (speaks_of_perform fun answer last asked => ?_)
      have later : last.keyDelays context.pacing = fun index =>
          world.keyDelays context.pacing (index + 1) := by
        rw [World.keyDelays_of_pace (perform_pace asked)]
        exact funext moved
      have speaks := @induction last
      rwa [later] at speaks

theorem speaks_check (locator expected : String) :
    (makeMoves driver context [.check locator expected]).Speaks driver world
        [.textContent locator]
      fun answers => Verification.examine expected (answers.getLastD "") := by
  have opened : makeMoves driver context [.check locator expected] =
      perform driver (.textContent locator) >>= fun found =>
        orFail id (Verification.examine expected found) := by
    simp only [makeMoves, makeMove, bind_assoc]
    refine congrArg (perform driver (.textContent locator) >>= ·) ?_
    funext found
    unfold Verification.examine
    split <;> rfl
  rw [opened]
  refine speaks_of_perform fun found between _ => ?_
  have examined :
      (orFail id (Verification.examine expected found)).Speaks driver
        between [] fun _ =>
      Verification.examine expected found := by
    cases Verification.examine expected found with
    | ok picture => exact speaks_of_quiet rfl rfl
    | error fault => exact speaks_of_quiet rfl rfl
  refine examined.judged_by fun answers none => ?_
  rw [List.length_nil, List.length_eq_zero_iff] at none
  rw [none]
  rfl

theorem quiet_pause (pacing : Pacing) (world : World σ) :
    world.Quiet ((clickDelay pacing >>= sleepWhole) world).2 :=
  within_bind (within_delay Frame.quiet_admitsDelays _ _ _)
    (fun _ => within_sleepWhole Frame.quiet_admitsDelays _) world

theorem speaks_pause {moves : List Move}
    (sleepable : ∀ world : World σ,
      ((clickDelay context.pacing >>= sleepWhole) world).1 = .ok ())
    (later : ∀ between : World σ,
      (makeMoves driver context moves).Speaks driver between script judge) :
    (makeMoves driver context (.pause :: moves)).Speaks driver world
      script judge := by
  have opened : makeMoves driver context (.pause :: moves) =
      (clickDelay context.pacing >>= sleepWhole) >>= fun _ =>
        makeMoves driver context moves := by
    simp [makeMoves, makeMove, map_or_none]
  have quiet := quiet_pause context.pacing world
  have slept := sleepable world
  rw [opened]
  rcases result : (clickDelay context.pacing >>= sleepWhole) world
    with ⟨_ | _, between⟩ <;>
    rw [result] at quiet slept
  · cases slept
  · exact speaks_after_quiet result quiet (later between)

theorem speaks_rest {ms : Decimal.Binary64}
    (sleepable : ∀ world : World σ, (sleep ms world).1 = .ok ()) :
    (makeMoves driver context [.rest ms]).Speaks driver world [] fun _ =>
      .ok none := by
  have opened : makeMoves driver context [.rest ms] =
      sleep ms >>= fun _ => makeMoves driver context [] := by
    simp [makeMoves, makeMove]
  have quiet : world.Quiet (sleep ms world).2 :=
    within_sleep Frame.quiet_admitsDelays ms world
  have slept := sleepable world
  rw [opened]
  rcases result : sleep ms world with ⟨_ | _, between⟩ <;>
    rw [result] at quiet slept
  · cases slept
  · exact speaks_after_quiet result quiet speaks_nil

theorem speaks_refuse (reason : String) (raw : List (Value × Value)) :
    (makeMoves driver context [.refuse reason raw]).Speaks driver
      world [] fun _ =>
      .error (Step.refusal reason raw) := by
  have refused : makeMoves driver context [.refuse reason raw] world =
      (.error (Step.refusal reason raw), world) := by
    rw [makeMoves_cons, makeMove, refuse_eq]
    rfl
  refine speaks_of_quiet ?_ ?_
  · rw [refused]
    rfl
  · rw [refused]

theorem parent_path (directory : Path) (label : String) (time : DateTime) :
    (Screenshot.path directory label time).parent = directory := by
  simp [Screenshot.path, Path.child, Path.parent]

theorem speaks_picture (label : String) (ready : world.log.threshold.isSome)
    (creatable : (world.files.ensureDirectory context.screenshotDir).2 =
      .ok ()) :
    (makeMoves driver context [.picture label]).Speaks driver world
      [.screenshot (Screenshot.path context.screenshotDir label
        (Calendar.ofMoment world.moment))]
      fun _ => .ok (some
        (Screenshot.path context.screenshotDir label
          (Calendar.ofMoment world.moment))) := by
  have made : ∃ between,
      ensureDirectory context.screenshotDir world = (.ok (), between) ∧
      world.Quiet between := by
    unfold ensureDirectory
    rcases result : world.files.ensureDirectory context.screenshotDir
      with ⟨files, fault | done⟩ <;>
      rw [result] at creatable
    · cases creatable
    · exact ⟨_, rfl, rfl⟩
  obtain ⟨between, done, quiet⟩ := made
  have capture :
      (capture driver context.screenshotDir label none).Speaks driver world
      [.screenshot (Screenshot.path context.screenshotDir label
        (Calendar.ofMoment world.moment))]
      fun _ => .ok (Screenshot.path context.screenshotDir label
        (Calendar.ofMoment world.moment)) := by
    refine speaks_after_quiet (logger_of_isSome ready _) rfl ?_
    have present : now world = (.ok (Calendar.ofMoment world.moment), world) :=
      rfl
    refine speaks_after_quiet present rfl ?_
    simp only [Option.getD_none, parent_path]
    refine speaks_after_quiet done quiet ?_
    refine speaks_of_perform fun _ last _ => ?_
    exact speaks_of_quiet (quiet_log _ _ _ _) rfl
  have opened : makeMoves driver context [.picture label] =
      Act.capture driver context.screenshotDir label none >>= fun path =>
        pure (some path) := by
    simp [makeMoves, makeMove]
  rw [opened]
  exact capture.before_quiet fun path last => ⟨rfl, rfl⟩

/-- The moves of a step ask for the script of the step. -/
theorem speaks_moves (step : Step) (ready : world.log.threshold.isSome)
    (creatable : (world.files.ensureDirectory context.screenshotDir).2 = .ok ())
    (sleepable : step.Sleepable σ context.pacing) :
    let picture label :=
      Screenshot.path context.screenshotDir label
        (Calendar.ofMoment world.moment)
    (makeMoves driver context
      (step.moves context.settings context.baseUrl)).Speaks driver world
      (step.script context.settings context.baseUrl picture
        (world.keyDelays context.pacing))
      (step.verdict picture) := by
  intro picture
  obtain ⟨action, timeout, raw⟩ := step
  unfold Step.moves Step.script Step.verdict
  simp only [Step.limit_eq]
  cases action with
  | navigate url => exact speaks_only_calls [_]
  | click selector =>
      exact speaks_calls [_] fun _ _ => speaks_pause sleepable fun _ =>
        speaks_only_calls [_]
  | type selector text =>
      have keys (between : World σ) (same : between.pace = world.pace) :
          (makeMoves driver context (text.toList.map fun c =>
            .key (Locator.ofSelector selector) c.toString)).Speaks
              driver between
            (text.toList.mapIdx fun index c =>
              .typeText (Locator.ofSelector selector) c.toString
                (world.keyDelays context.pacing index))
            fun _ => .ok none := by
        rw [← World.keyDelays_of_pace same]
        exact speaks_keys _ _
      exact speaks_calls [_, _, _] keys
  | waitFor selector => exact speaks_only_calls [_]
  | screenshot label => exact speaks_picture label ready creatable
  | verify selector expected =>
      refine (speaks_calls [_] fun _ _ => speaks_check _ expected).judged_by
        fun answers two => ?_
      rcases answers with _ | ⟨shown, _ | ⟨found, _ | ⟨more, answers⟩⟩⟩ <;>
        simp at two
      rfl
  | wait ms => exact speaks_rest sleepable
  | scroll selector => exact speaks_only_calls [_, _]
  | hover selector => exact speaks_only_calls [_, _]
  | select selector value => exact speaks_only_calls [_, _]
  | press key => exact speaks_only_calls [_]
  | evaluate text => exact speaks_only_calls [_]
  | malformed reason => exact speaks_refuse reason raw

theorem speaks_timed {act : Act σ α} {judge : List String → Except Fault α}
    (ready : world.log.threshold.isSome) (level : LogLevel) (label : String)
    (inner : act.Speaks driver world script judge) :
    (timed level label act).Speaks driver world script judge := by
  have started :
      (milliseconds : Act σ Int) world = (.ok world.milliseconds, world) :=
    rfl
  refine speaks_after_quiet (logger_of_isSome ready _) rfl
    (speaks_after_quiet started rfl ?_)
  exact inner.ensuring_quiet fun between => ⟨quiet_log _ _ _ _, rfl⟩

theorem speaks_carryOut (step : Step) (ready : world.log.threshold.isSome)
    (creatable : (world.files.ensureDirectory context.screenshotDir).2 = .ok ())
    (sleepable : step.Sleepable σ context.pacing) :
    let picture label :=
      Screenshot.path context.screenshotDir label
        (Calendar.ofMoment world.moment)
    (carryOut driver context step).Speaks driver world
      (step.script context.settings context.baseUrl picture
        (world.keyDelays context.pacing))
      (step.verdict picture) := by
  intro picture
  have moves :
      (makeMoves driver context
        (step.moves context.settings context.baseUrl)).Speaks
      driver world
      (step.script context.settings context.baseUrl picture
        (world.keyDelays context.pacing))
      (step.verdict picture) :=
    speaks_moves step ready creatable sleepable
  unfold carryOut
  split
  · exact speaks_timed ready _ _ moves
  · exact moves

end Act

end PageFlow
