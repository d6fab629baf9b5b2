import PageFlow.Proofs.Attempts
import PageFlow.Proofs.Rehearsal

/-!
# Durations

A duration is the difference of two readings of the clock, each rounded down to
whole milliseconds. So a single step may seem to take almost a millisecond more
than it did. But no step begins before the one in front of it has ended, so what
the rounding gives to one step it takes from the time before or behind it: the
durations of the steps of a run fit into the duration of the run, whatever the
calls and the naps cost.
-/

namespace PageFlow

open Act

variable {σ : Type} {driver : Driver σ} {context : StepContext}

/-! ## The clock -/

/-- The clock does not go back. -/
def Frame.onward : Frame σ where
  allows before after := before.clock ≤ after.clock
  refl _ := Int.le_refl _
  trans := Int.le_trans

theorem Frame.onward_of_calm {before after : World σ}
    (calm : before.Calm after) :
    Frame.onward.allows before after :=
  Int.le_of_eq calm.clock.symm

theorem Act.onward_reply {α : Type} (event : SessionEvent)
    (asked : Int → σ → Reply σ α) :
    (reply event asked).Within .onward := by
  intro world
  rw [reply_eq]
  exact Int.le_add_of_nonneg_right (Int.natCast_nonneg _)

theorem Act.onward_nap (seconds : Decimal.Binary64) :
    (nap seconds : Act σ Unit).Within .onward := by
  intro world
  unfold nap
  dsimp only
  split
  · exact Int.le_refl _
  · split
    · exact Int.le_add_of_nonneg_right (Int.le_max_left _ _)
    · exact Int.le_refl _

theorem World.onward_launched (driver : Driver σ) (headless : Bool)
    (world : World σ) :
    world.clock ≤ (world.launched driver headless).clock :=
  Int.le_add_of_nonneg_right (Int.natCast_nonneg _)

theorem World.onward_released (driver : Driver σ) (world : World σ) :
    world.clock ≤ (world.released driver).clock :=
  Int.le_add_of_nonneg_right (Int.natCast_nonneg _)

theorem Frame.onward_admitsRuns (driver : Driver σ) (recorder : Recorder)
    (directory : Path) :
    (Frame.onward : Frame σ).AdmitsRuns driver recorder directory where
  toAdmitsTelling := calm_admitsTelling.weaken onward_of_calm
  nap := onward_nap
  draw _ := Int.le_refl _
  perform call _ := by
    refine within_perform (onward_reply _ _) fun path data _ world => ?_
    unfold writeFile
    split <;> exact Int.le_refl _
  launch headless := onward_reply _ _
  release := onward_reply _ _
  submit record world := by
    have kept : (Runner.submit recorder record world).2.clock = world.clock :=
      Runner.keeping_submit (fun _ _ _ _ _ => rfl) recorder record world
    exact Int.le_of_eq kept.symm

/-! ## Readings -/

/-- The whole milliseconds from one reading of a clock to another one. -/
def wholeMilliseconds (start finish : Int) : Int :=
  Int.fdiv finish 1000000 - Int.fdiv start 1000000

theorem wholeMilliseconds_nonneg {start finish : Int}
    (onward : start ≤ finish) :
    0 ≤ wholeMilliseconds start finish := by
  simp only [wholeMilliseconds,
    Int.fdiv_eq_ediv_of_nonneg _ (show (0 : Int) ≤ 1000000 by decide)]
  omega

/-- Outcomes were measured between two readings of a clock, in nanoseconds: each
from a reading of its own to a later one, and none before the one in front of it
had ended. -/
inductive Measured : Int → List Outcome → Int → Prop where
  | done {before after : Int} : before ≤ after → Measured before [] after
  | next {before start finish after : Int} {outcome : Outcome}
      {later : List Outcome} :
      before ≤ start → start ≤ finish →
      outcome.duration = wholeMilliseconds start finish →
      Measured finish later after → Measured before (outcome :: later) after

def totalDuration (outcomes : List Outcome) : Int :=
  (outcomes.map (·.duration)).foldr (· + ·) 0

namespace Measured

variable {before start after : Int} {outcomes : List Outcome}

theorem left (onward : before ≤ start)
    (measured : Measured start outcomes after) :
    Measured before outcomes after := by
  cases measured with
  | done rest => exact .done (Int.le_trans onward rest)
  | next first interval duration later =>
      exact .next (Int.le_trans onward first) interval duration later

theorem right (measured : Measured before outcomes start)
    (onward : start ≤ after) :
    Measured before outcomes after := by
  induction measured with
  | done rest => exact .done (Int.le_trans rest onward)
  | next first interval duration _ induction =>
      exact .next first interval duration (induction onward)

theorem onward (measured : Measured before outcomes after) :
    before ≤ after := by
  induction measured with
  | done rest => exact rest
  | next first interval _ _ later =>
      exact Int.le_trans first (Int.le_trans interval later)

theorem duration_nonneg (measured : Measured before outcomes after) :
    ∀ outcome ∈ outcomes, 0 ≤ outcome.duration := by
  induction measured with
  | done => simp
  | next _ interval duration _ induction =>
      refine List.forall_mem_cons.mpr ⟨?_, induction⟩
      rw [duration]
      exact wholeMilliseconds_nonneg interval

/-- The roundings in between cancel: only the first and the last one count. -/
theorem totalDuration_le (measured : Measured before outcomes after) :
    totalDuration outcomes ≤ wholeMilliseconds before after := by
  induction measured with
  | done rest => exact wholeMilliseconds_nonneg rest
  | @next before start finish after outcome later first _ duration
    _ induction =>
      have idle := wholeMilliseconds_nonneg first
      calc totalDuration (outcome :: later)
          = wholeMilliseconds start finish + totalDuration later :=
            congrArg (· + totalDuration later) duration
        _ ≤ wholeMilliseconds start finish + wholeMilliseconds
          finish after := by
          omega
        _ ≤ wholeMilliseconds before after := by
            unfold wholeMilliseconds at *
            omega

end Measured

/-! ## Steps -/

theorem Act.duration_of_execute {step : Step} {outcome : Outcome}
    {world after : World σ}
    (executed : execute driver context step world = (.ok outcome, after)) :
    world.clock ≤ after.clock ∧
      outcome.duration = wholeMilliseconds world.clock after.clock := by
  have frame := Frame.onward_admitsRuns driver .absent context.screenshotDir
  obtain ⟨_, named, naming, rest⟩ := bind_eq_ok.mp executed
  rw [withContext, ask_bind, milliseconds, ask_bind] at rest
  obtain ⟨result, carried, carrying, rest⟩ := bind_eq_ok.mp rest
  rw [since, ask_bind] at rest
  have calm : world.Calm named :=
    (within_logger Frame.calm_admitsTelling.toAdmitsLogging _).allows naming
  have onward : named.clock ≤ carried.clock :=
    (within_settle (within_carryOut frame.toAdmitsSteps step)).allows carrying
  have positive := wholeMilliseconds_nonneg onward
  have measured : max 0 (carried.milliseconds - named.milliseconds) =
      wholeMilliseconds named.clock carried.clock := Int.max_eq_right positive
  rw [← calm.clock]
  cases result with
  | ok picture =>
      cases rest
      exact ⟨onward, measured⟩
  | error fault =>
      obtain ⟨_, told, telling, rest⟩ := bind_eq_ok.mp rest
      have ended : carried.Calm told :=
        (Frame.calm_admitsTelling.log _ _ _).allows telling
      cases rest
      rw [ended.clock]
      exact ⟨onward, measured⟩

/-- The outcomes of steps are measured one after another, behind those of
earlier steps. -/
theorem Runner.measured_runSteps {options : RunOptions} {log : Logger}
    {total index : Nat} {steps : List Step} {tally final : Tally}
    {world after : World σ}
    (ended : runSteps driver context options log total index steps tally world =
      (.ok final, after)) :
    ∃ outcomes, final.outcomes = tally.outcomes ++ outcomes ∧
      Measured world.clock outcomes after.clock := by
  have frame := Frame.onward_admitsRuns driver .absent context.screenshotDir
  induction steps generalizing index tally world with
  | nil =>
      cases ended
      exact ⟨[], (List.append_nil _).symm, .done (Int.le_refl _)⟩
  | cons step steps induction =>
      obtain ⟨attempt, finish, told, _, executed, _, telling, _, rest⟩ :=
        runSteps_cons_eq_ok ended
      obtain ⟨interval, duration⟩ := duration_of_execute executed
      have idle : finish.clock ≤ told.clock :=
        (within_tellStep frame.toAdmitsTelling _ _ _ _).allows telling
      split at rest
      · obtain ⟨_, _, logging, rest⟩ := bind_eq_ok.mp rest
        cases rest
        have last : told.clock ≤ after.clock := (frame.log _ _ _).allows logging
        exact ⟨[attempt.outcome], rfl, .next (Int.le_refl _) interval duration
          (.done (Int.le_trans idle last))⟩
      · obtain ⟨outcomes, account, measured⟩ := induction rest
        refine ⟨attempt.outcome :: outcomes, ?_,
          .next (Int.le_refl _) interval duration (measured.left idle)⟩
        simpa [Tally.add] using account

/-! ## Runs -/

namespace Runner

variable {runner : Runner} {options : RunOptions} {world after : World σ}
  {result : RunResult}

theorem start_of_prepare {flow : Flow} {begun : Logger × Int}
    (prepared : runner.prepare options flow world = (.ok begun, after)) :
    begun.2 = after.milliseconds := by
  obtain ⟨_, _, _, rest⟩ := bind_eq_ok.mp prepared
  rw [withContext, ask_bind] at rest
  obtain ⟨_, _, _, rest⟩ := bind_eq_ok.mp rest
  obtain ⟨_, _, _, rest⟩ := bind_eq_ok.mp rest
  cases rest
  rfl

/-- The outcomes of a run are measured in its session, and the run from before
the session is launched until it is released. -/
theorem measured_runFlow {flow : Flow}
    (ended : runner.runFlow driver options flow world = (.ok result, after)) :
    ∃ start finish, world.clock ≤ start ∧ finish ≤ after.clock ∧
      result.duration = wholeMilliseconds start finish ∧
        Measured start result.steps finish := by
  have frame := Frame.onward_admitsRuns driver runner.recorder
    (runner.contextFor options flow).screenshotDir
  rw [runFlow_eq_parts] at ended
  obtain ⟨begun, prepared, preparing, ended⟩ := bind_eq_ok.mp ended
  obtain ⟨held, closed, holding, concluding⟩ := bind_eq_ok.mp ended
  have before : world.clock ≤ prepared.clock :=
    (within_prepare frame.toAdmitsTelling _ _ _).allows preparing
  have behind : closed.clock ≤ after.clock :=
    (within_conclude frame.toAdmitsTelling frame.submit _ _ _).allows concluding
  cases result_of_conclude concluding
  obtain ⟨tally, released, session, measured⟩ := bind_eq_ok.mp holding
  rw [since, ask_bind, start_of_prepare preparing] at measured
  cases measured
  obtain ⟨finish, _, steps, _, rfl⟩ := withSession_eq_ok session
  obtain ⟨outcomes, account, measured⟩ := measured_runSteps steps
  have inside :=
    (measured.left (World.onward_launched _ _ _)).right
      (World.onward_released driver finish)
  refine ⟨prepared.clock, (finish.released driver).clock, before,
    behind, ?_, ?_⟩
  · exact Int.max_eq_right (wholeMilliseconds_nonneg inside.onward)
  · rwa [resultOf, account]

/-- However long calls and naps take, the durations of the steps of a run are
not negative, and together they are at most the duration of the run. Each is the
difference of two readings of the clock in whole milliseconds. -/
theorem durations_fit {source : FlowSource}
    (ended : runner.run driver options source world = (.ok result, after)) :
    (∀ outcome ∈ result.steps, 0 ≤ outcome.duration) ∧
    totalDuration result.steps ≤ result.duration ∧
    ∃ start finish, world.clock ≤ start ∧ finish ≤ after.clock ∧
      result.duration = wholeMilliseconds start finish ∧
        Measured start result.steps finish := by
  obtain ⟨output, printed⟩ := run_eq_printed runner driver options source world
  obtain ⟨same, rfl⟩ := Prod.mk.inj (printed.symm.trans ended)
  obtain ⟨flow, loaded, loading, flowed⟩ := bind_eq_ok.mp (Prod.ext same rfl)
  have unchanged : loaded = world := (congrArg Prod.snd loading).symm
  subst unchanged
  obtain ⟨start, finish, before, behind, duration, measured⟩ :=
    measured_runFlow flowed
  have fits : totalDuration result.steps ≤ result.duration :=
    duration ▸ measured.totalDuration_le
  exact ⟨measured.duration_nonneg, fits, start, finish, before, behind,
    duration, measured⟩

/-- A flow of two naps of a millisecond. -/
private def drowsy : Flow where
  name := "Drowsy"
  baseUrl := none
  description := none
  steps := [⟨.wait (.ofInt 1), none, []⟩, ⟨.wait (.ofInt 1), none, []⟩]

/-- Both naps take 1.2 ms instead of the millisecond asked for. From 0.9 ms on
the clock on, the first one is measured as 2 ms, the second one as 1 ms, and the
run as 3 ms. -/
theorem durations_fit_drowsy :
    let runner : Runner := ⟨.rehearsal, .absent, .off⟩
    let world :=
      { World.rehearsal .plain ⟨[], []⟩ with
        clock := 900000, drift := fun _ => 200000 }
    ∃ (result : RunResult) (after : World _),
      runner.run Script.plain.driver .none (.flow drowsy) world =
        (.ok result, after) ∧
      result.steps.map (·.duration) = [2, 1] ∧ result.duration = 3 ∧
      totalDuration result.steps ≤ result.duration := by
  intro runner world
  have absent : runner.recorder.Polite := trivial
  have facts :
      ((runner.run Script.plain.driver .none (.flow drowsy)
        world).1.toOption.map
      fun result => (result.steps.map (·.duration), result.duration)) =
        some ([2, 1], 3) := by
    rw [result_of_run absent]
    decide +kernel
  rcases ended : runner.run Script.plain.driver .none (.flow drowsy) world
    with ⟨_ | result, after⟩
  · rw [ended] at facts
    cases facts
  · rw [ended] at facts
    obtain ⟨durations, duration⟩ := Prod.mk.inj (Option.some.inj facts)
    exact ⟨result, after, rfl, durations, duration, (durations_fit ended).2.1⟩

end Runner

end PageFlow
