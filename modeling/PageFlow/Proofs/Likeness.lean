import Mathlib.Data.List.Forall2
import PageFlow.Proofs.Completion

/-!
# Likeness

Two runs are compared act by act. A likeness says in which ways their worlds may
differ, and whether their clocks may drift apart. If it admits the few acts
around the moves of steps, runs that begin alike stay alike as long as their
moves do, and what comes of them differs in no more than what depends on time.

What sets two runs apart may only be seen in the end. So acts correspond under
the condition that the worlds behind them are sound, and whatever follows an act
has to let soundness be traced back to it.
-/

namespace PageFlow

variable {σ α β γ δ : Type}

/-- In which ways the worlds of two runs may differ. With `drifts` their times
may, and so may whatever depends on time. `sound` and `sound'` are conditions on
the worlds of the first and the second run. -/
structure Likeness (σ : Type) where
  alike : World σ → World σ → Prop
  drifts : Prop
  sound : World σ → Prop
  sound' : World σ → Prop

/-- A condition that held before whenever it holds now. -/
def Frame.tracing (condition : World σ → Prop) : Frame σ where
  allows before after := condition after → condition before
  refl _ := id
  trans first second := first ∘ second

/-- Two values of which one depends on the time of the first run as the other
does on the time of the second. -/
def Likeness.Near (like : Likeness σ) (value other : α) : Prop :=
  like.drifts ∨ value = other

namespace Likeness.Near

variable {like : Likeness σ}

theorem refl (value : α) : like.Near value value :=
  .inr rfl

theorem map {value other : α} (near : like.Near value other) (f : α → β) :
    like.Near (f value) (f other) :=
  near.imp_right (congrArg f)

theorem map₂ {value other : α} {more less : β} (near : like.Near value other)
    (also : like.Near more less) (f : α → β → γ) :
    like.Near (f value more) (f other less) := by
  rcases near with drifts | rfl
  · exact .inl drifts
  · exact also.map (f value)

end Likeness.Near

/-! ## Two acts -/

/-- The same fault, or values that are related. -/
inductive Agree (values : α → β → Prop) :
    Except Fault α → Except Fault β → Prop where
  | ok {value : α} {other : β} : values value other →
    Agree values (.ok value) (.ok other)
  | error (fault : Fault) : Agree values (.error fault) (.error fault)

theorem Agree.weaken {values others : α → β → Prop} {result : Except Fault α}
    {result' : Except Fault β} (agree : Agree values result result')
    (wide : ∀ value other, values value other → others value other) :
    Agree others result result' := by
  cases agree with
  | ok related => exact .ok (wide _ _ related)
  | error fault => exact .error fault

theorem Agree.map_eq {f : α → γ} {g : β → γ} {result : Except Fault α}
    {result' : Except Fault β}
    (agree : Agree (fun value other => f value = g other) result result') :
    result.map f = result'.map g := by
  cases agree with
  | ok same => exact congrArg Except.ok same
  | error fault => rfl

def anyValues (_ : α) (_ : β) : Prop :=
  True

namespace Act

/-- In two worlds, two acts come to results that agree and to worlds that are
alike. -/
def Meets (first : Act σ α) (second : Act σ β) (like : Likeness σ)
    (values : α → β → Prop) (world other : World σ) : Prop :=
  Agree values (first world).1 (second other).1 ∧
    like.alike (first world).2 (second other).2

/-- Two acts meet in all worlds that are alike. -/
def Matches (first : Act σ α) (second : Act σ β) (like : Likeness σ)
    (values : α → β → Prop) : Prop :=
  ∀ world other, like.alike world other →
    first.Meets second like values world other

/-- Two acts meet in worlds that are alike if they lead to sound worlds. -/
def Corresponds (first : Act σ α) (second : Act σ β) (like : Likeness σ)
    (values : α → β → Prop) : Prop :=
  ∀ world other, like.alike world other → like.sound (first world).2 →
    like.sound' (second other).2 →
    first.Meets second like values world other

variable {like : Likeness σ} {values : α → β → Prop} {others : γ → δ → Prop}
  {act : Act σ α} {twin : Act σ β} {next : α → Act σ γ} {next' : β → Act σ δ}

theorem Matches.corresponds (always : act.Matches twin like values) :
    act.Corresponds twin like values :=
  fun world other alike _ _ => always world other alike

theorem Matches.weaken {wider : α → β → Prop}
    (always : act.Matches twin like values)
    (wide : ∀ value other, values value other → wider value other) :
    act.Matches twin like wider := by
  intro world other alike
  obtain ⟨agree, alike⟩ := always world other alike
  exact ⟨agree.weaken wide, alike⟩

theorem matches_pure {value : α} {other : β} (related : values value other) :
    (pure value : Act σ α).Matches (pure other) like values :=
  fun _ _ alike => ⟨.ok related, alike⟩

theorem matches_ask {f : World σ → α} {g : World σ → β}
    (related : ∀ world other, like.alike world other →
      values (f world) (g other)) :
    (ask f).Matches (ask g) like values :=
  fun world other alike => ⟨.ok (related world other alike), alike⟩

theorem matches_fail (fault : Fault) :
    (fail fault : Act σ α).Matches (fail fault : Act σ β) like values :=
  fun _ _ alike => ⟨.error fault, alike⟩

/-- Acts that meet are followed by acts that meet, or both end with the same
fault. -/
theorem meets_bind {world other : World σ}
    (first : act.Meets twin like values world other)
    (second : ∀ value value' between middle, act world = (.ok value, between) →
      twin other = (.ok value', middle) → values value value' →
      like.alike between middle →
      (next value).Meets (next' value') like others between middle) :
    (act >>= next).Meets (twin >>= next') like others world other := by
  obtain ⟨agree, alike⟩ := first
  rcases here : act world with ⟨result, between⟩
  rcases there : twin other with ⟨result', middle⟩
  rw [here, there] at agree alike
  unfold Meets
  cases agree with
  | error fault =>
      rw [bind_of_error here, bind_of_error there]
      exact ⟨.error fault, alike⟩
  | ok related =>
      rw [bind_of_ok here, bind_of_ok there]
      exact second _ _ between middle here there related alike

theorem matches_bind (first : act.Matches twin like values)
    (second : ∀ value value', values value value' →
      (next value).Matches (next' value') like others) :
    (act >>= next).Matches (twin >>= next') like others := by
  intro world other alike
  refine meets_bind (first world other alike)
    fun _ _ between middle _ _ related alike => ?_
  exact second _ _ related between middle alike

theorem Matches.bind (first : act.Matches twin like values)
    (second : ∀ value value', values value value' →
      (next value).Corresponds (next' value') like others) :
    (act >>= next).Corresponds (twin >>= next') like others := by
  intro world other alike sound sound'
  refine meets_bind (first world other alike)
    fun _ _ between middle here there related alike => ?_
  rw [bind_of_ok here] at sound
  rw [bind_of_ok there] at sound'
  exact second _ _ related between middle alike sound sound'

theorem sound_of_bind {condition : World σ → Prop} {act : Act σ α}
    {next : α → Act σ β}
    (traced : ∀ value, (next value).Within (.tracing condition))
    {world : World σ} (sound : condition ((act >>= next) world).2) :
    condition (act world).2 := by
  rcases result : act world with ⟨fault | value, between⟩
  · rwa [bind_of_error result] at sound
  · rw [bind_of_ok result] at sound
    exact traced value between sound

theorem Corresponds.bind (first : act.Corresponds twin like values)
    (traced : ∀ value, (next value).Within (.tracing like.sound))
    (traced' : ∀ value, (next' value).Within (.tracing like.sound'))
    (second : ∀ value value', values value value' →
      (next value).Corresponds (next' value') like others) :
    (act >>= next).Corresponds (twin >>= next') like others := by
  intro world other alike sound sound'
  -- Soundness is given for the worlds behind both acts, and the first act needs
  -- it before the second.
  have met :=
    first world other alike (sound_of_bind traced sound)
      (sound_of_bind traced' sound')
  refine meets_bind met fun _ _ between middle here there related alike => ?_
  rw [bind_of_ok here] at sound
  rw [bind_of_ok there] at sound'
  exact second _ _ related between middle alike sound sound'

theorem settle_snd (act : Act σ α) (world : World σ) :
    (settle act world).2 = (act world).2 := by
  rcases result : act world with ⟨fault | value, after⟩
  · rw [settle_of_error result]
    split <;> rfl
  · rw [settle_of_ok result]

theorem Corresponds.settle (inner : act.Corresponds twin like values) :
    (settle act).Corresponds (Act.settle twin) like (Agree values) := by
  intro world other alike sound sound'
  rw [settle_snd] at sound sound'
  obtain ⟨agree, alike⟩ := inner world other alike sound sound'
  rcases here : act world with ⟨result, between⟩
  rcases there : twin other with ⟨result', middle⟩
  rw [here, there] at agree alike
  unfold Meets
  cases agree with
  | error fault =>
      rw [settle_of_error here, settle_of_error there]
      split
      · exact ⟨.error fault, alike⟩
      · exact ⟨.ok (.error fault), alike⟩
  | ok related =>
      rw [settle_of_ok here, settle_of_ok there]
      exact ⟨.ok (.ok related), alike⟩

theorem ensuring_snd (act : Act σ α) (last : Act σ Unit) (world : World σ) :
    (ensuring act last world).2 = (last (act world).2).2 := by
  unfold ensuring
  rcases result : act world with ⟨outcome, between⟩
  rcases ending : last between with ⟨_ | _, after⟩ <;> simp only [ending]

theorem Corresponds.ensuring {last last' : Act σ Unit}
    (inner : act.Corresponds twin like values)
    (traced : last.Within (.tracing like.sound))
    (traced' : last'.Within (.tracing like.sound'))
    (ending : last.Matches last' like anyValues) :
    (ensuring act last).Corresponds (Act.ensuring twin last') like values := by
  intro world other alike sound sound'
  rw [ensuring_snd] at sound sound'
  obtain ⟨agree, alike⟩ :=
    inner world other alike (traced _ sound) (traced' _ sound')
  rcases here : act world with ⟨result, between⟩
  rcases there : twin other with ⟨result', middle⟩
  rw [here, there] at agree alike
  obtain ⟨ended, alike⟩ := ending between middle alike
  rcases finish : last between with ⟨_, after⟩
  rcases finish' : last' middle with ⟨_, after'⟩
  rw [finish, finish'] at ended alike
  cases ended with
  | error fault =>
      simpa [Meets, Act.ensuring, here, there, finish, finish']
        using ⟨.error fault, alike⟩
  | ok _ =>
      simpa [Meets, Act.ensuring, here, there, finish, finish'] using ⟨agree,
        alike⟩

end Act

/-! ## Steps -/

/-- The time of a world, and what its log is told. -/
def World.telling (world : World σ) : (Int × Int) × Log :=
  ((world.epoch, world.clock), world.log)

/-- A likeness admits what runs are made of besides the moves of their steps:
asking for the time, telling the log, different texts on the console, and
launching and releasing sessions. Soundness can be traced back through all of a
run. -/
structure Likeness.AdmitsRuns (like : Likeness σ) (driver : Driver σ)
    (directory : Path) : Prop where
  tells : ∀ world other, like.alike world other →
    like.Near world.telling other.telling
  setUpLog : Act.setUpLog.Matches Act.setUpLog like anyValues
  log :
    ∀ {logger logger' : Logger} (level : LogLevel) {message message' : String},
    like.Near logger logger' → like.Near message message' →
    (Act.log logger level message).Matches (Act.log logger' level message')
    like anyValues
  output : ∀ world other text text', like.alike world other →
    like.alike { world with output := text } { other with output := text' }
  launch : ∀ headless, (Act.reply (.opened headless) fun time state =>
    driver.launch time headless state).Matches
      (Act.reply (.opened headless) fun time state =>
    driver.launch time headless state) like anyValues
  release :
    (Act.reply .closed fun time state => driver.release time state).Matches
    (Act.reply .closed fun time state => driver.release time state)
    like anyValues
  traced : (Frame.tracing like.sound).AdmitsRuns driver .absent directory
  traced' : (Frame.tracing like.sound').AdmitsRuns driver .absent directory

/-- What is told of an outcome is the same, and outcomes differ in no more than
times. -/
structure Likeness.SameOutcome (like : Likeness σ) (first second : Outcome) :
    Prop where
  step : first.step = second.step
  success : first.success = second.success
  error : first.error = second.error
  near : like.Near first second

namespace Act

variable {like : Likeness σ} {driver : Driver σ} {context : StepContext}
  {pacing : Pacing}

section Telling

variable {directory : Path} (admits : like.AdmitsRuns driver directory)

include admits

theorem matches_milliseconds :
    (milliseconds : Act σ Int).Matches milliseconds like like.Near :=
  matches_ask fun world other alike =>
    (admits.tells world other alike).map fun telling =>
      Int.fdiv telling.1.2 1000000

theorem matches_since {start start' : Int} (near : like.Near start start') :
    (since start : Act σ Int).Matches (since start') like like.Near :=
  matches_ask fun world other alike =>
    ((admits.tells world other alike).map fun telling =>
      Int.fdiv telling.1.2 1000000).map₂ near
      fun present start => max 0 (present - start)

theorem matches_withContext {log log' : Logger} (near : like.Near log log')
    (values : LogContext) :
    (withContext log values : Act σ Logger).Matches (withContext log' values)
      like like.Near :=
  matches_ask fun world other alike =>
    ((admits.tells world other alike).map Prod.snd).map₂ near fun log logger =>
      log.withContext logger values

theorem matches_logger (name : String) :
    (logger name : Act σ Logger).Matches (logger name) like Eq :=
  matches_bind admits.setUpLog fun _ _ _ => matches_pure rfl

theorem corresponds_timed {values : α → β → Prop} {act : Act σ α}
    {twin : Act σ β} (level : LogLevel) (label : String)
    (inner : act.Corresponds twin like values) :
    (timed level label act).Corresponds (timed level label twin)
      like values := by
  refine (matches_logger admits _).bind ?_
  rintro log _ rfl
  refine (matches_milliseconds admits).bind fun start start' began => ?_
  refine inner.ensuring
    (within_bind (within_ask _) fun _ => admits.traced.log _ _ _)
    (within_bind (within_ask _) fun _ => admits.traced'.log _ _ _) ?_
  refine matches_bind (matches_since admits began) fun ms ms' near => ?_
  exact admits.log level (.refl _)
    (near.map fun ms => label ++ " took " ++ elapsedText ms)

end Telling

def MovesCorrespond (like : Likeness σ) (driver : Driver σ)
    (context : StepContext) (pacing : Pacing) (step : Step) : Prop :=
  ∀ move ∈ step.moves context.settings context.baseUrl,
    (makeMove driver context move).Corresponds
      (makeMove driver { context with pacing := pacing } move) like like.Near

theorem corresponds_makeMoves
    (admits : like.AdmitsRuns driver context.screenshotDir) {moves : List Move}
    (stay : ∀ move ∈ moves, move.StaysIn context.screenshotDir)
    (moving : ∀ move ∈ moves, (makeMove driver context move).Corresponds
      (makeMove driver { context with pacing := pacing } move) like like.Near) :
    (makeMoves driver context moves).Corresponds
      (makeMoves driver { context with pacing := pacing } moves) like
        like.Near := by
  induction moves with
  | nil => exact (matches_pure (.refl _)).corresponds
  | cons move moves induction =>
      have stay' : ∀ move ∈ moves, move.StaysIn context.screenshotDir :=
        fun move member => stay move (by simp [member])
      have traced :
          (makeMoves driver context moves).Within (.tracing like.sound) :=
        within_makeMoves admits.traced.toAdmitsSteps moves stay'
      have traced' :
          (makeMoves driver { context with pacing := pacing } moves).Within
          (.tracing like.sound') := by
        refine within_makeMoves ?_ moves stay'
        exact admits.traced'.toAdmitsSteps
      have later :=
        induction stay' fun move member => moving move (by simp [member])
      refine (moving move (by simp)).bind
        (fun _ => within_bind traced fun _ => within_pure _)
        (fun _ => within_bind traced' fun _ => within_pure _)
        fun picture picture' near => ?_
      exact later.bind (fun _ => within_pure _) (fun _ => within_pure _)
        fun _ _ also =>
        (matches_pure (near.map₂ also Option.or)).corresponds

theorem corresponds_carryOut
    (admits : like.AdmitsRuns driver context.screenshotDir) {step : Step}
    (moving : MovesCorrespond like driver context pacing step) :
    (carryOut driver context step).Corresponds
      (carryOut driver { context with pacing := pacing } step) like
        like.Near := by
  have moves :=
    corresponds_makeMoves admits
      (step.moves_stayIn context.settings context.baseUrl context.screenshotDir)
      moving
  unfold carryOut
  split
  · exact corresponds_timed admits _ _ moves
  · exact moves

/-- A condition that holds when the outcome of a step is found held when the
step had been carried out. -/
theorem within_outcome {condition : World σ → Prop}
    (traced : (Frame.tracing condition).AdmitsRuns driver .absent
      context.screenshotDir) (step : Step) (log : Logger) (start : Int)
    (result : Except Fault (Option Path)) : (do
      let duration ← since start
      match result with
      | .ok picture =>
          return ⟨step, true, duration, none, picture.map Path.text⟩
      | .error fault =>
        Act.log log .debug ("Step failed: " ++ fault.message)
        return ⟨step, false, duration, some fault.message, none⟩ :
          Act σ Outcome).Within
      (.tracing condition) := by
  refine within_bind (within_ask _) fun _ => ?_
  cases result with
  | ok picture => exact within_pure _
  | error fault => exact within_bind (traced.log _ _ _) fun _ => within_pure _

/-- A step has the same outcome in both runs, as far as it does not depend on
time. -/
theorem corresponds_execute
    (admits : like.AdmitsRuns driver context.screenshotDir) {step : Step}
    (moving : MovesCorrespond like driver context pacing step) :
    (execute driver context step).Corresponds
      (execute driver { context with pacing := pacing } step) like
        like.SameOutcome := by
  refine (matches_logger admits _).bind ?_
  rintro plain _ rfl
  refine (matches_withContext admits (.refl plain) _).bind fun log log' named =>
    ?_
  refine (matches_milliseconds admits).bind fun start start' began => ?_
  refine (corresponds_carryOut admits moving).settle.bind
    (within_outcome admits.traced step log start)
    (within_outcome admits.traced' step log' start') fun result result' agree =>
      ?_
  refine (matches_bind (matches_since admits began) fun ms ms' took =>
    ?_).corresponds
  cases agree with
  | ok near =>
      refine matches_pure ⟨rfl, rfl, rfl, ?_⟩
      exact took.map₂ near fun ms picture =>
        Outcome.mk step true ms none (picture.map Path.text)
  | error fault =>
      refine matches_bind (admits.log _ named (.refl _)) fun _ _ _ => ?_
      refine matches_pure ⟨rfl, rfl, rfl, ?_⟩
      exact took.map fun ms =>
        Outcome.mk step false ms (some fault.message) none

end Act

/-! ## Runs -/

/-- What is told of steps is the same, and tallies differ in no more than
times. -/
structure Likeness.SameTally (like : Likeness σ) (first second : Tally) :
    Prop where
  outcomes : List.Forall₂ like.SameOutcome first.outcomes second.outcomes
  passed : first.passed = second.passed
  failed : first.failed = second.failed
  near : like.Near first second

theorem Likeness.SameTally.add {like : Likeness σ} {first second : Tally}
    {outcome other : Outcome} (same : like.SameTally first second)
    (told : like.SameOutcome outcome other) :
    like.SameTally (first.add outcome) (second.add other) where
  outcomes := List.rel_append same.outcomes (.cons told .nil)
  passed := by rw [Tally.add, Tally.add, told.success, same.passed]
  failed := by rw [Tally.add, Tally.add, told.success, same.failed]
  near := same.near.map₂ told.near Tally.add

/-- What is told of steps is the same in both results. -/
structure Likeness.SameResult (like : Likeness σ) (first second : RunResult) :
    Prop where
  name : first.name = second.name
  baseUrl : first.baseUrl = second.baseUrl
  screenshotDir : first.screenshotDir = second.screenshotDir
  steps : List.Forall₂ like.SameOutcome first.steps second.steps
  passed : first.passed = second.passed
  failed : first.failed = second.failed
  total : first.total = second.total

namespace Runner

open Act

variable {like : Likeness σ} {driver : Driver σ} {context : StepContext}
  {pacing : Pacing} {options : RunOptions}

theorem matches_report (admits : like.AdmitsRuns driver context.screenshotDir)
    (json : Bool) {parts parts' : List Markup.Part} (flat : Markup.Flat parts)
    (flat' : Markup.Flat parts') :
    (report options parts).Matches
        (report { options with json := json } parts') like
      anyValues := by
  -- Whatever a report says, and whether or not it is printed, it changes the
  -- console alone.
  have told (options : RunOptions) {parts : List Markup.Part}
      (flat : Markup.Flat parts)
      (world : World σ) : ∃ text, report options parts world =
        (.ok (), { world with output := text }) := by
    unfold report
    split
    · exact ⟨world.output, rfl⟩
    · obtain ⟨text, printing⟩ := printReport_eq (σ := σ) flat
      rw [printing]
      exact ⟨_, rfl⟩
  intro world other alike
  obtain ⟨text, first⟩ := told options flat world
  obtain ⟨text', second⟩ := told { options with json := json } flat' other
  rw [Meets, first, second]
  exact ⟨.ok trivial, admits.output world other text text' alike⟩

theorem matches_tellStep (admits : like.AdmitsRuns driver context.screenshotDir)
    (json : Bool) {log log' : Logger} (named : like.Near log log')
    (index total : Nat) {outcome other : Outcome}
    (same : like.SameOutcome outcome other) :
    (tellStep options log index total outcome).Matches
      (tellStep { options with json := json } log' index total other) like
        anyValues := by
  have lines : (report options (Report.stepLines outcome index)).Matches
      (report { options with json := json } (Report.stepLines other index))
        like anyValues :=
    matches_report admits json (Report.flat_stepLines _ _)
      (Report.flat_stepLines _ _)
  have text :
      failureText index total outcome = failureText index total other := by
    rw [failureText, failureText, same.error]
  unfold tellStep
  rw [same.success, text]
  split
  · exact matches_bind (admits.log _ named (.refl _)) fun _ _ _ => lines
  · exact lines

/-- The steps of both runs come to the same, and one run stops where the other
does. -/
theorem corresponds_runSteps
    (admits : like.AdmitsRuns driver context.screenshotDir)
    (options : RunOptions) (json : Bool) {log log' : Logger}
    (named : like.Near log log') (total index : Nat) {steps : List Step}
    (moving : ∀ step ∈ steps, MovesCorrespond like driver context pacing step)
    {tally tally' : Tally} (same : like.SameTally tally tally') :
    (runSteps driver context options log total index steps tally).Corresponds
      (runSteps driver { context with pacing := pacing }
        { options with json := json } log' total index steps tally') like
        like.SameTally := by
  have going {condition : World σ → Prop} (context : StepContext)
      (options : RunOptions)
      (traced : (Frame.tracing condition).AdmitsRuns driver .absent
        context.screenshotDir)
      (log stepLog : Logger) (index : Nat) (steps : List Step) (tally : Tally)
      (outcome : Outcome) :
      (do
        tellStep options stepLog index total outcome
        if !outcome.success && options.stopOnFailure then
          Act.log stepLog .info (stopText index total)
          return tally.add outcome
        else
          runSteps driver context options log total (index + 1) steps
            (tally.add outcome) :
        Act σ Tally).Within (.tracing condition) := by
    refine within_bind (within_tellStep traced.toAdmitsTelling _ _ _ _) fun _ =>
      ?_
    split
    · exact within_bind (traced.log _ _ _) fun _ => within_pure _
    · exact within_runSteps traced _ _ _ _ _
  induction steps generalizing index tally tally' with
  | nil => exact (matches_pure same).corresponds
  | cons step steps induction =>
      refine (matches_withContext admits named _).bind
        fun stepLog stepLog' near => ?_
      refine (corresponds_execute admits (moving step (by simp))).bind
        (going context options admits.traced log stepLog index steps tally)
        (going { context with pacing := pacing } { options with json := json }
          admits.traced' log' stepLog' index steps tally')
          fun outcome other told => ?_
      refine (matches_tellStep admits json near _ _ told).bind fun _ _ _ => ?_
      rw [told.success]
      split
      · refine (matches_bind (admits.log _ near (.refl _)) fun _ _ _ =>
          ?_).corresponds
        exact matches_pure (same.add told)
      · exact induction _ (fun step member => moving step (by simp [member]))
          (same.add told)

theorem corresponds_withSession
    (admits : like.AdmitsRuns driver context.screenshotDir)
    {values : α → β → Prop} {act : Act σ α} {twin : Act σ β}
    (inner : act.Corresponds twin like values) (headless : Bool) :
    (withSession driver headless act).Corresponds
      (withSession driver headless twin) like values :=
  (admits.launch headless).bind fun _ _ _ =>
    inner.ensuring admits.traced.release admits.traced'.release admits.release

/-! ## What follows a session -/

/-- A run up to the end of its session: its logger and its result. -/
def attempt (driver : Driver σ) (context : StepContext) (options : RunOptions)
    (headless : Bool) (flow : Flow) : Act σ (Logger × RunResult) := do
  let log ← withContext runLog [("flow", .text flow.name)]
  Act.log log .info (startText flow context.baseUrl)
  report options (Report.header flow.name context.baseUrl)
  let start ← milliseconds
  let tally ← withSession driver headless
    (runSteps driver context options log flow.steps.length 1 flow.steps .start)
  let duration ← since start
  return (log, resultOf flow context duration tally)

/-- What is told of a result, and recorded. -/
def conclude (runner : Runner) (options : RunOptions) (log : Logger)
    (result : RunResult) : Act σ RunResult := do
  Act.log log .info (finishText result)
  runner.record result.name result.baseUrl result.passed result.failed
    result.total result.duration
  report options (Report.summary result)
  return result

/-- A run up to the end of its session, with the directory for screenshots made
first. -/
def undertake (runner : Runner) (driver : Driver σ) (options : RunOptions)
    (flow : Flow) : Act σ (Logger × RunResult) := do
  ensureDirectory (runner.contextFor options flow).screenshotDir
  attempt driver (runner.contextFor options flow) options
    (options.headless.getD runner.settings.headless) flow

theorem runFlow_eq (runner : Runner) (driver : Driver σ) (options : RunOptions)
    (flow : Flow) :
    runner.runFlow driver options flow = (do
      let ended ← runner.undertake driver options flow
      runner.conclude options ended.1 ended.2) := by
  simp [runFlow, undertake, attempt, conclude]

theorem within_conclude {frame : Frame σ} (admits : frame.AdmitsTelling)
    {runner : Runner}
    (submitting : ∀ record, (submit runner.recorder record).Within frame)
    (options : RunOptions) (log : Logger) (result : RunResult) :
    (runner.conclude options log result).Within frame :=
  within_bind (admits.log _ _ _) fun _ =>
    within_bind (within_record admits.toAdmitsLogging submitting _ _ _ _ _ _)
      fun _ =>
    within_bind (within_report admits _) fun _ => within_pure _

theorem quiet_record (runner : Runner) (flowName baseUrl : String)
    (passed failed total duration : Int) :
    (runner.record flowName baseUrl passed failed total duration : Act σ
      Unit).Within .quiet :=
  within_record Frame.quiet_admitsTelling.toAdmitsLogging
    (keeping_submit (fun _ _ _ _ _ => rfl) _)
    _ _ _ _ _ _

theorem quiet_conclude (runner : Runner) (options : RunOptions) (log : Logger)
    (result : RunResult) :
    (runner.conclude options log result : Act σ RunResult).Within .quiet :=
  within_conclude Frame.quiet_admitsTelling
    (keeping_submit (fun _ _ _ _ _ => rfl) _) options log result

/-- Whatever a polite recorder does with a result, it stays the result of the
run, and the session is left alone. -/
theorem conclude_eq {runner : Runner} (polite : runner.recorder.Polite)
    (options : RunOptions) (log : Logger) (result : RunResult)
    (world : World σ) :
    ∃ after, conclude runner options log result world = (.ok result, after) ∧
      world.Quiet after := by
  obtain ⟨_, told, finishing⟩ := total_log log .info (finishText result) world
  obtain ⟨_, recorded, recording⟩ :=
    total_record polite result.name result.baseUrl result.passed
      result.failed result.total result.duration told
  obtain ⟨_, last, summing⟩ :=
    total_report options (Report.flat_summary result) recorded
  have concluding :
      conclude runner options log result world = (.ok result, last) := by
    rw [conclude, bind_of_ok finishing, bind_of_ok recording,
      bind_of_ok summing]
    rfl
  exact ⟨last, concluding,
    (quiet_conclude runner options log result).allows concluding⟩

/-- With a polite recorder nothing counts but what a run comes to by the end of
its session. -/
theorem runFlow_concludes (runner : Runner) (polite : runner.recorder.Polite)
    (driver : Driver σ) (options : RunOptions) (flow : Flow) (world : World σ) :
    ∃ after, runner.runFlow driver options flow world =
        ((runner.undertake driver options flow world).1.map Prod.snd, after) ∧
      (runner.undertake driver options flow world).2.Quiet after := by
  rw [runFlow_eq]
  rcases ended : runner.undertake driver options flow world
    with ⟨fault | ⟨log, result⟩, between⟩
  · rw [bind_of_error ended]
    exact ⟨between, rfl, rfl⟩
  · obtain ⟨after, concluded, quiet⟩ :=
      conclude_eq polite options log result between
    rw [bind_of_ok ended, concluded]
    exact ⟨after, rfl, quiet⟩

/-- What a run prints in the end is all that it adds to what came of its
flow. -/
theorem run_eq_printed (runner : Runner) (driver : Driver σ)
    (options : RunOptions) (source : FlowSource) (world : World σ) :
    ∃ output, runner.run driver options source world =
      ((runner.runSource driver options source world).1,
        { (runner.runSource driver options source world).2 with output :=
          output }) := by
  rcases ran : runner.runSource driver options source world
    with ⟨fault | result, between⟩
  · rw [run, bind_of_error ran]
    exact ⟨_, rfl⟩
  · rw [run, bind_of_ok ran]
    split
    · exact ⟨_, rfl⟩
    · exact ⟨_, rfl⟩

theorem run_eq (runner : Runner) (driver : Driver σ) (options : RunOptions)
    (source : FlowSource) (world : World σ) :
    ∃ after, runner.run driver options source world =
        ((runner.runSource driver options source world).1, after) ∧
      (runner.runSource driver options source world).2.Quiet after := by
  obtain ⟨output, ran⟩ := run_eq_printed runner driver options source world
  exact ⟨_, ran, rfl⟩

theorem corresponds_attempt
    (admits : like.AdmitsRuns driver context.screenshotDir)
    (options : RunOptions) (json headless : Bool) (flow : Flow)
    (moving : ∀ step ∈ flow.steps,
      MovesCorrespond like driver context pacing step) :
    (attempt driver context options headless flow).Corresponds
      (attempt driver { context with pacing := pacing }
        { options with json := json } headless flow)
      like fun ended other =>
        like.SameResult ended.2 other.2 ∧ like.Near ended other := by
  refine (matches_withContext admits (.refl runLog) _).bind
    fun log log' named => ?_
  refine (admits.log _ named (.refl _)).bind fun _ _ _ => ?_
  refine (matches_report admits json (Report.flat_header _ _)
    (Report.flat_header _ _)).bind
    fun _ _ _ => ?_
  refine (matches_milliseconds admits).bind fun start start' began => ?_
  have empty : like.SameTally .start .start := ⟨.nil, rfl, rfl, .refl _⟩
  refine (corresponds_withSession admits
    (corresponds_runSteps admits options json named _ _ moving empty)
    headless).bind
    (fun _ => within_bind (within_ask _) fun _ => within_pure _)
    (fun _ => within_bind (within_ask _) fun _ => within_pure _)
    fun tally tally' same => ?_
  refine (matches_bind (matches_since admits began)
    fun duration duration' took => ?_).corresponds
  have near : like.Near (resultOf flow context duration tally)
      (resultOf flow { context with pacing := pacing } duration' tally') :=
    took.map₂ same.near (resultOf flow context)
  refine matches_pure ⟨⟨rfl, rfl, rfl, same.outcomes, ?_, ?_, rfl⟩,
    named.map₂ near Prod.mk⟩
  · exact congrArg Nat.cast same.passed
  · exact congrArg Nat.cast same.failed

end Runner

end PageFlow
