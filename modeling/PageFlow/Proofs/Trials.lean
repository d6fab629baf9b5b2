import PageFlow.Proofs.Course

/-!
# Trials

A run tries the steps of its flow in turn: each is executed in the world that
the one before has left. What a session comes to is said by its trials, also
where a request to stop cuts the last one off or where the session is not
released in the end.
-/

namespace PageFlow

open Act

variable {σ : Type} {driver : Driver σ} {context : StepContext}
  {options : RunOptions} {log : Logger} {total index : Nat}

/-- One step of a run and its number, the world in which it is executed, and
what comes of it. -/
structure Trial (σ : Type) where
  index : Nat
  step : Step
  before : World σ
  result : Except Fault Outcome
  after : World σ

namespace Trial

def take (driver : Driver σ) (context : StepContext) (index : Nat) (step : Step)
    (world : World σ) : Trial σ where
  index := index
  step := step
  before := world
  result := (execute driver context step world).1
  after := (execute driver context step world).2

def failed (trial : Trial σ) : Bool :=
  match trial.result with
  | .ok outcome => !outcome.success
  | .error _ => false

/-- No other step is tried behind this one: a failed step where failures are to
stop the run, or a request to stop the program. -/
def isLast (options : RunOptions) (trial : Trial σ) : Bool :=
  match trial.result with
  | .ok outcome => !outcome.success && options.stopOnFailure
  | .error _ => true

/-- The logger of a step, made from that of its run. -/
def stepLog (log : Logger) (trial : Trial σ) : Logger :=
  trial.before.log.withContext log
    [("step_index", .int trial.index), ("action", .text trial.step.action.name)]

/-- The world that a trial leaves to the next one: an outcome was told. -/
def left (options : RunOptions) (log : Logger) (total : Nat) (trial : Trial σ) :
    World σ :=
  match trial.result with
  | .error _ => trial.after
  | .ok outcome =>
    let told :=
      (Runner.tellStep options (trial.stepLog log) trial.index total outcome
        trial.after).2
    if trial.isLast options then
      (Act.log (trial.stepLog log) .info
        (Runner.stopText trial.index total) told).2
    else told

/-- The trials of some steps, one behind the other, up to one that is the
last. -/
def all (driver : Driver σ) (context : StepContext) (options : RunOptions)
    (log : Logger) (total : Nat) : Nat → List Step → World σ → List (Trial σ)
  | _, [], _ => []
  | index, step :: rest, world =>
    let trial := take driver context index step world
    trial :: if trial.isLast options then []
      else all driver context options log total (index + 1) rest
        (trial.left options log total)

def behind (options : RunOptions) (log : Logger) (total : Nat) :
    World σ → List (Trial σ) → World σ
  | world, [] => world
  | _, trial :: rest =>
      behind options log total (trial.left options log total) rest

theorem all_of_isLast {step : Step} {world : World σ}
    (last : (take driver context index step world).isLast options = true)
    (steps : List Step) :
    all driver context options log total index (step :: steps) world =
      [take driver context index step world] :=
  congrArg (_ :: ·) (if_pos last)

theorem all_of_not_isLast {step : Step} {world : World σ}
    (goesOn : (take driver context index step world).isLast options = false)
    (steps : List Step) :
    all driver context options log total index (step :: steps) world =
      take driver context index step world ::
        all driver context options log total (index + 1) steps
          ((take driver context index step world).left options log total) :=
  congrArg (_ :: ·) (if_neg (by simp [goesOn]))

theorem all_numbered {steps : List Step} {world : World σ} {place : Nat}
    {trial : Trial σ}
    (found : (all driver context options log total index steps world)[place]? =
      some trial) :
    trial.index = index + place ∧ steps[place]? = some trial.step ∧
      trial = take driver context trial.index trial.step trial.before := by
  induction steps generalizing index world place with
  | nil => cases found
  | cons step steps induction =>
      cases last : (take driver context index step world).isLast options with
      | true =>
          rw [all_of_isLast last] at found
          cases place with
          | zero =>
              cases found
              exact ⟨rfl, rfl, rfl⟩
          | succ place => cases found
      | false =>
          rw [all_of_not_isLast last] at found
          cases place with
          | zero =>
              cases found
              exact ⟨rfl, rfl, rfl⟩
          | succ place =>
              obtain ⟨number, sequence, taken⟩ := induction found
              exact ⟨by omega, sequence, taken⟩

end Trial

namespace Runner

/-- A run tries one step, and then it is cut off, or ends, or goes on with what
the step has added. -/
theorem runSteps_cons (step : Step) (steps : List Step) (tally : Tally)
    (world : World σ) :
    let trial := Trial.take driver context index step world
    runSteps driver context options log total index (step :: steps)
      tally world =
      match trial.result with
      | .error fault => (.error fault, trial.left options log total)
      | .ok outcome =>
        if trial.isLast options then
          (.ok (tally.add outcome), trial.left options log total)
        else runSteps driver context options log total (index + 1) steps
          (tally.add outcome)
          (trial.left options log total) := by
  intro trial
  rcases executed : execute driver context step world
    with ⟨fault | outcome, finish⟩
  all_goals
    have result : trial.result = _ := congrArg Prod.fst executed
    have after : trial.after = finish := congrArg Prod.snd executed
    rw [runSteps, withContext, ask_bind, result, Trial.left, result]
  · rw [bind_of_error executed, after]
  · obtain ⟨_, told, telling⟩ :=
      total_tellStep options (trial.stepLog log) index total outcome finish
    have same :
        (tellStep options (trial.stepLog log) trial.index total outcome
          trial.after).2 = told := by
      rw [after]
      exact congrArg Prod.snd telling
    have named : world.log.withContext log
        [("step_index", .int index), ("action", .text step.action.name)] =
          trial.stepLog log :=
      rfl
    rw [bind_of_ok executed]
    dsimp only
    rw [named, bind_of_ok telling, same, Trial.isLast, result]
    split
    · obtain ⟨_, last, stopping⟩ :=
        total_log (trial.stepLog log) .info (stopText index total) told
      rw [bind_of_ok stopping]
      exact congrArg (Prod.mk _) (congrArg Prod.snd stopping).symm
    · rfl

/-- A run of steps ends behind its trials. -/
theorem world_of_runSteps (steps : List Step) (tally : Tally)
    (world : World σ) :
    (runSteps driver context options log total index steps tally world).2 =
      Trial.behind options log total world
        (Trial.all driver context options log total index steps world) := by
  induction steps generalizing index tally world with
  | nil => rfl
  | cons step steps induction =>
      rw [runSteps_cons]
      let trial := Trial.take driver context index step world
      cases result : trial.result with
      | error fault =>
          have last : trial.isLast options = true := by
            rw [Trial.isLast, result]
          rw [Trial.all_of_isLast last]
          rfl
      | ok outcome =>
          dsimp only
          cases last : trial.isLast options with
          | true =>
              rw [Trial.all_of_isLast last]
              rfl
          | false =>
              rw [Trial.all_of_not_isLast last]
              exact induction _ _

/-- If a run of steps has a tally, its trials have all come to an outcome. -/
theorem results_of_runSteps {steps : List Step} {tally account : Tally}
    {world : World σ}
    (ended : (runSteps driver context options log total index steps tally
      world).1 = .ok account) :
    account.outcomes.map .ok = tally.outcomes.map .ok ++
      (Trial.all driver context options log total index steps world).map
        (·.result) := by
  induction steps generalizing index tally world with
  | nil =>
      cases ended
      exact (List.append_nil _).symm
  | cons step steps induction =>
      rw [runSteps_cons] at ended
      let trial := Trial.take driver context index step world
      cases result : trial.result with
      | error fault =>
          rw [result] at ended
          cases ended
      | ok outcome =>
          have added : (tally.add outcome).outcomes.map Except.ok =
              tally.outcomes.map Except.ok ++ [trial.result] := by
            rw [result, Tally.add, List.map_append]
            rfl
          rw [result] at ended
          dsimp only at ended
          cases last : trial.isLast options with
          | true =>
              rw [if_pos last] at ended
              cases ended
              rw [Trial.all_of_isLast last, added]
              rfl
          | false =>
              rw [if_neg (by simp [trial, last])] at ended
              rw [Trial.all_of_not_isLast last, induction ended, added,
                List.append_assoc]
              rfl

/-! ## Runs -/

/-- The trials of the session of a run. There are none if it is not launched. -/
def sessionTrials (runner : Runner) (driver : Driver σ) (options : RunOptions)
    (flow : Flow) (log : Logger) (world : World σ) : List (Trial σ) :=
  let headless := options.headless.getD runner.settings.headless
  match (driver.launch world.clock headless world.session).answer with
  | .error _ => []
  | .ok () =>
      Trial.all driver (runner.contextFor options flow) options log
        flow.steps.length 1
        flow.steps (world.launched driver headless)

/-- The trials of a run. There are none if it ends before its session. -/
def trials (runner : Runner) (driver : Driver σ) (options : RunOptions)
    (flow : Flow) (world : World σ) : List (Trial σ) :=
  match runner.prepare options flow world with
  | (.error _, _) => []
  | (.ok (log, _), begun) => runner.sessionTrials driver options flow log begun

variable {runner : Runner} {flow : Flow} {world : World σ}

/-- The trials of a run are numbered from one, and each has the step of its
place. -/
theorem trials_numbered {place : Nat} {trial : Trial σ}
    (found : (runner.trials driver options flow world)[place]? = some trial) :
    trial.index = place + 1 ∧ flow.steps[place]? = some trial.step ∧
      trial = Trial.take driver (runner.contextFor options flow) trial.index
        trial.step trial.before := by
  unfold trials sessionTrials at found
  split at found
  · cases found
  · dsimp only at found
    split at found
    · cases found
    · obtain ⟨number, sequence, taken⟩ := Trial.all_numbered found
      exact ⟨by omega, sequence, taken⟩

theorem results_of_runFlow {result : RunResult}
    (ended : (runner.runFlow driver options flow world).1 = .ok result) :
    (runner.trials driver options flow world).map (·.result) =
      result.steps.map .ok := by
  rcases ran : runner.runFlow driver options flow world
    with ⟨_ | final, after⟩ <;> rw [ran] at ended
  · cases ended
  cases ended
  rw [runFlow_eq_parts] at ran
  obtain ⟨⟨log, start⟩, begun, preparing, ran⟩ := bind_eq_ok.mp ran
  obtain ⟨held, closed, holding, concluding⟩ := bind_eq_ok.mp ran
  cases result_of_conclude concluding
  obtain ⟨tally, between, session, measured⟩ := bind_eq_ok.mp holding
  cases measured
  obtain ⟨finish, opens, steps, _, _⟩ := withSession_eq_ok session
  have outcomes := results_of_runSteps (congrArg Prod.fst steps)
  rw [trials, preparing]
  dsimp only
  rw [sessionTrials, opens]
  exact outcomes.symm

end Runner

end PageFlow
