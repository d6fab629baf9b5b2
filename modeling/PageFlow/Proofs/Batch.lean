import Mathlib.Data.List.Forall2
import PageFlow.CommandLine
import PageFlow.Proofs.Attempts
import PageFlow.Proofs.Completion

/-!
# Batches

Several flows are run one after another, each from the world that the one before
has left. A batch without errors and failed steps has a result for every source,
and where every source has a result the batch has no errors.
-/

namespace PageFlow

open Act

variable {σ α : Type} {driver : Driver σ} {runner : Runner}
  {options : RunOptions} {frame : Frame σ}

theorem Act.settle_eq_ok_ok {act : Act σ α} {world after : World σ} {value : α}
    (settled : settle act world = (.ok (.ok value), after)) :
    act world = (.ok value, after) := by
  rcases result : act world with ⟨fault | found, between⟩
  · rw [settle_of_error result] at settled
    split at settled <;> cases settled
  · rw [settle_of_ok result] at settled
    cases settled
    rfl

/-! ## Results -/

theorem BatchResult.errors_of_addError (batch : BatchResult)
    (name error : String) :
    (batch.addError name error).errors ≠ [] := by
  unfold addError
  cases batch.errors with
  | nil => simp [addError.put]
  | cons entry errors =>
      simp only [addError.put]
      split <;> simp

private theorem failed_of_sum {results : List RunResult}
    (counts : ∀ result ∈ results, 0 ≤ result.failed) :
    0 ≤ (results.map (·.failed)).foldr (· + ·) 0 ∧
      ((results.map (·.failed)).foldr (· + ·) 0 = 0 → ∀ result ∈ results,
        result.failed = 0) := by
  induction results with
  | nil => simp
  | cons result results induction =>
      obtain ⟨positive, zero⟩ :=
        induction fun member among => counts member (by simp [among])
      have first := counts result (by simp)
      simp only [List.map_cons, List.foldr_cons]
      refine ⟨by omega, fun none => ?_⟩
      intro member among
      rcases List.mem_cons.mp among with rfl | among
      · omega
      · exact zero (by omega) member among

theorem BatchResult.failed_of_totalFailed {batch : BatchResult}
    (counts : ∀ result ∈ batch.results, 0 ≤ result.failed)
    (none : batch.totalFailed = 0) :
    ∀ result ∈ batch.results, result.failed = 0 :=
  (failed_of_sum counts).2 none

namespace Runner

theorem failed_nonneg {source : FlowSource} {world after : World σ}
    {result : RunResult}
    (ran : runner.runSource driver options source world = (.ok result, after)) :
    0 ≤ result.failed := by
  obtain ⟨flow, loaded, _, flowed⟩ := bind_eq_ok.mp ran
  obtain ⟨attempts, _, _, _, _, rfl, _⟩ := runFlow_attempts flowed
  exact Int.natCast_nonneg _

/-! ## Runs that succeed -/

theorem runEach_grows {sources : List FlowSource} {batch final : BatchResult}
    {world after : World σ}
    (ended : runner.runEach driver options sources batch world =
      (.ok final, after)) :
    (∃ results, final.results = batch.results ++ results ∧
      ∀ result ∈ results, 0 ≤ result.failed) ∧
      (final.errors = [] → batch.errors = []) := by
  induction sources generalizing batch world with
  | nil =>
      cases ended
      exact ⟨⟨[], by simp⟩, id⟩
  | cons source sources induction =>
      obtain ⟨key, _, named, running⟩ := bind_eq_ok.mp ended
      rw [(orFail_eq_ok named).2] at running
      obtain ⟨settled, between, settling, rest⟩ := bind_eq_ok.mp running
      cases settled with
      | error fault =>
          obtain ⟨_, logged, _, rest⟩ := bind_eq_ok.mp rest
          obtain ⟨grown, errors⟩ := induction rest
          exact ⟨grown, fun none =>
            (BatchResult.errors_of_addError batch _ _ (errors none)).elim⟩
      | ok result =>
          have count := failed_nonneg (settle_eq_ok_ok settling)
          dsimp only at rest
          split at rest
          · cases rest
            exact ⟨⟨[result], rfl, by simpa using count⟩, id⟩
          · obtain ⟨⟨results, grown, counts⟩, errors⟩ := induction rest
            refine ⟨⟨result :: results, ?_, ?_⟩, errors⟩
            · simpa [BatchResult.addResult] using grown
            · simpa [count] using counts

/-- In a batch without errors and failed steps every source was run, and none of
its steps failed. -/
theorem runEach_sound {directory : Path}
    (admits : frame.AdmitsRuns driver runner.recorder directory)
    (placed : directory = options.screenshotDir.getD
      runner.settings.screenshotDir) {sources : List FlowSource}
    {batch final : BatchResult} {world after : World σ}
    (ended : runner.runEach driver options sources batch world =
      (.ok final, after)) (noErrors : final.errors = [])
    (noFailures : ∀ result ∈ final.results, result.failed = 0) :
    ∀ source ∈ sources, ∃ start result finish, frame.allows world start ∧
      runner.runSource driver options source start = (.ok result, finish) ∧
        result.failed = 0 := by
  subst placed
  induction sources generalizing batch world with
  | nil => simp
  | cons source sources induction =>
      obtain ⟨key, _, named, running⟩ := bind_eq_ok.mp ended
      rw [(orFail_eq_ok named).2] at running
      obtain ⟨settled, between, settling, rest⟩ := bind_eq_ok.mp running
      cases settled with
      | error fault =>
          obtain ⟨_, logged, _, rest⟩ := bind_eq_ok.mp rest
          have errors := (runEach_grows rest).2 noErrors
          exact (BatchResult.errors_of_addError batch _ _ errors).elim
      | ok result =>
          have ran := settle_eq_ok_ok settling
          dsimp only at rest
          have counted : result.failed = 0 := by
            refine noFailures result ?_
            split at rest
            · cases rest
              simp [BatchResult.addResult]
            · obtain ⟨⟨results, grown, _⟩, _⟩ := runEach_grows rest
              simp [grown, BatchResult.addResult]
          intro member among
          rcases List.mem_cons.mp among with rfl | among
          · exact ⟨world, result, between, frame.refl world, ran, counted⟩
          · rw [if_neg (by simp [counted])] at rest
            obtain ⟨start, later, finish, allowed, found⟩ :=
              induction rest member among
            exact ⟨start, later, finish,
              frame.trans ((within_runSource source admits).allows ran) allowed,
              found⟩

/-! ## Runs that complete -/

/-- Where every source has a result, the batch has all results in order and no
errors. -/
theorem runEach_complete {sound : World σ → Prop}
    {explains : FlowSource → RunResult → Prop} {sources : List FlowSource}
    {world : World σ} (batch : BatchResult)
    (goesOn : options.stopOnFailure = false)
    (named : ∀ source ∈ sources, source.key = .ok source.text)
    (each : ∀ source ∈ sources, ∀ start, sound start → ∃ result after,
      runner.runSource driver options source start = (.ok result, after) ∧
        sound after ∧
        explains source result)
    (begun : sound world) :
    ∃ results after,
      runner.runEach driver options sources batch world =
        (.ok ⟨batch.results ++ results, batch.errors⟩, after) ∧
      List.Forall₂ explains sources results := by
  induction sources generalizing batch world with
  | nil =>
      refine ⟨[], world, ?_, .nil⟩
      rw [List.append_nil]
      rfl
  | cons source sources induction =>
      obtain ⟨result, between, ran, sound, explained⟩ :=
        each source (by simp) world begun
      obtain ⟨results, after, later, matched⟩ :=
        induction (batch.addResult result)
          (fun member among => named member (by simp [among]))
          (fun member among => each member (by simp [among])) sound
      refine ⟨result :: results, after, ?_, .cons explained matched⟩
      rw [runEach, named source (by simp), bind_of_ok (orFail_ok _ _ _),
        bind_of_ok (settle_of_ok ran)]
      dsimp only
      rw [if_neg (by simp [goesOn]), later]
      simp [BatchResult.addResult]

theorem run_of_runSource {source : FlowSource} {world between : World σ}
    {result : RunResult}
    (ran : runner.runSource driver options source world =
      (.ok result, between)) :
    ∃ after, runner.run driver options source world = (.ok result, after) := by
  obtain ⟨output, printed⟩ := run_eq_printed runner driver options source world
  rw [printed, ran]
  exact ⟨_, rfl⟩

/-- A batch is run to its end; then there is nothing but its report. -/
theorem runAll_eq_printed (runner : Runner) (driver : Driver σ)
    (options : RunOptions) (sources : List FlowSource) (world : World σ) :
    ∃ output, runner.runAll driver options sources world =
      ((runner.runEach driver options sources .empty world).1,
        { (runner.runEach driver options sources .empty world).2 with output :=
          output }) := by
  rcases ran : runner.runEach driver options sources .empty world
    with ⟨fault | batch, between⟩
  · rw [runAll, bind_of_error ran]
    exact ⟨_, rfl⟩
  · obtain ⟨text, printing⟩ := printReport_eq (σ := σ) (Report.flat_batch batch)
    rw [runAll, bind_of_ok ran, printing]
    split
    · exact ⟨_, rfl⟩
    · exact ⟨_, rfl⟩

theorem runAll_of_runEach {sources : List FlowSource} {batch : BatchResult}
    {world between : World σ}
    (ran : runner.runEach driver options sources .empty world =
      (.ok batch, between)) :
    ∃ after,
      runner.runAll driver options sources world = (.ok batch, after) := by
  obtain ⟨output, printed⟩ :=
    runAll_eq_printed runner driver options sources world
  rw [printed, ran]
  exact ⟨_, rfl⟩

theorem runEach_of_runAll {sources : List FlowSource} {batch : BatchResult}
    {world after : World σ}
    (ended : runner.runAll driver options sources world = (.ok batch, after)) :
    ∃ between, runner.runEach driver options sources .empty world =
      (.ok batch, between) := by
  obtain ⟨output, printed⟩ :=
    runAll_eq_printed runner driver options sources world
  obtain ⟨same, _⟩ := Prod.mk.inj (printed.symm.trans ended)
  exact ⟨_, Prod.ext same rfl⟩

end Runner

namespace CommandLine

/-- The batch of several sources, whose errors are told at the end. -/
def gatherAll (driver : Driver σ) (runner : Runner) (options : RunOptions)
    (sources : List FlowSource) : Act σ BatchResult := do
  let batch ← runner.runAll driver options sources
  batch.errors.forM fun (key, text) =>
    echoError ("ERR " ++ key ++ " -> " ++ text)
  return batch

/-- The batch of sources. A source by itself has its result or its error in a
batch of its own. -/
def gather (driver : Driver σ) (runner : Runner) (options : RunOptions) :
    List FlowSource → Act σ BatchResult
  | [source] => do
    match ← settle (runner.run driver options source) with
    | .ok result => return ⟨[result], []⟩
    | .error fault =>
      tellFault fault
      return ⟨[], [(source.text, fault.message)]⟩
  | sources => gatherAll driver runner options sources

theorem runSources_eq_gather (driver : Driver σ) (runner : Runner)
    (options : RunOptions) (sources : List FlowSource) :
    runSources driver runner options sources =
      BatchResult.success <$> gather driver runner options sources := by
  have several (sources : List FlowSource) : (do
      let batch ← runner.runAll driver options sources
      batch.errors.forM fun (key, text) =>
        echoError ("ERR " ++ key ++ " -> " ++ text)
      return batch.success : Act σ Bool) =
        BatchResult.success <$> gatherAll driver runner options sources := by
    simp only [gatherAll, map_bind, map_pure]
  match sources with
  | [] => exact several []
  | [source] =>
      simp only [runSources, gather, map_bind]
      refine congrArg (settle (runner.run driver options source) >>= ·) ?_
      funext ended
      cases ended with
      | ok result => simp [BatchResult.success, BatchResult.totalFailed]
      | error fault => simp [BatchResult.success]
  | first :: second :: rest => exact several (first :: second :: rest)

variable {directory : Path} {sources : List FlowSource} {batch : BatchResult}
  {world after : World σ}

theorem gatherAll_sound
    (admits : frame.AdmitsRuns driver runner.recorder directory)
    (placed : directory = options.screenshotDir.getD
      runner.settings.screenshotDir)
    (ended : gatherAll driver runner options sources world = (.ok batch, after))
    (success : batch.success) :
    ∀ source ∈ sources, ∃ start result finish, frame.allows world start ∧
      runner.runSource driver options source start = (.ok result, finish) ∧
        result.failed = 0 := by
  obtain ⟨found, _, ran, rest⟩ := bind_eq_ok.mp ended
  obtain ⟨_, _, _, rest⟩ := bind_eq_ok.mp rest
  cases rest
  obtain ⟨between, each⟩ := Runner.runEach_of_runAll ran
  obtain ⟨⟨results, grown, counts⟩, _⟩ := Runner.runEach_grows each
  simp only [BatchResult.success, Bool.and_eq_true, List.isEmpty_iff,
    beq_iff_eq] at success
  refine Runner.runEach_sound admits placed each success.1 ?_
  refine BatchResult.failed_of_totalFailed ?_ success.2
  rw [grown]
  simpa [BatchResult.empty] using counts

/-- A batch that is a success has a result without failed steps for every
source. -/
theorem gather_sound
    (admits : frame.AdmitsRuns driver runner.recorder directory)
    (placed : directory = options.screenshotDir.getD
      runner.settings.screenshotDir)
    (ended : gather driver runner options sources world = (.ok batch, after))
    (success : batch.success) :
    ∀ source ∈ sources, ∃ start result finish, frame.allows world start ∧
      runner.runSource driver options source start = (.ok result, finish) ∧
        result.failed = 0 := by
  match sources with
  | [] => exact gatherAll_sound admits placed ended success
  | [source] =>
      obtain ⟨settled, _, settling, rest⟩ := bind_eq_ok.mp ended
      cases settled with
      | error fault =>
          obtain ⟨_, _, _, rest⟩ := bind_eq_ok.mp rest
          cases rest
          simp [BatchResult.success] at success
      | ok result =>
          cases rest
          obtain ⟨between, ran, _⟩ :=
            Runner.runSource_of_run (settle_eq_ok_ok settling)
          refine List.forall_mem_singleton.mpr ⟨world, result, between,
            frame.refl world, ran, ?_⟩
          simpa [BatchResult.success, BatchResult.totalFailed] using success
  | first :: second :: rest => exact gatherAll_sound admits placed ended success

section Complete

variable {sound : World σ → Prop} {explains : FlowSource → RunResult → Prop}
  (goesOn : options.stopOnFailure = false)
  (named : ∀ source ∈ sources, source.key = .ok source.text)
  (each : ∀ source ∈ sources, ∀ start, sound start → ∃ result after,
    runner.runSource driver options source start = (.ok result, after) ∧
    sound after ∧ explains source result) (begun : sound world)

include goesOn named each begun

theorem gatherAll_complete :
    ∃ results after, gatherAll driver runner options sources world =
        (.ok ⟨results, []⟩, after) ∧
      List.Forall₂ explains sources results := by
  obtain ⟨results, between, ran, matched⟩ :=
    Runner.runEach_complete .empty goesOn named each begun
  obtain ⟨after, all⟩ := Runner.runAll_of_runEach ran
  refine ⟨results, after, ?_, matched⟩
  rw [gatherAll, bind_of_ok all]
  rfl

/-- Where every source has a result, so has the batch, and it has no errors. -/
theorem gather_complete :
    ∃ results after,
      gather driver runner options sources world = (.ok ⟨results, []⟩, after) ∧
      List.Forall₂ explains sources results := by
  match sources with
  | [] => exact gatherAll_complete goesOn named each begun
  | [source] =>
      obtain ⟨result, between, ran, _, explained⟩ :=
        each source (by simp) world begun
      obtain ⟨after, done⟩ := Runner.run_of_runSource ran
      refine ⟨[result], after, ?_, .cons explained .nil⟩
      rw [gather, bind_of_ok (settle_of_ok done)]
      rfl
  | first :: second :: rest => exact gatherAll_complete goesOn named each begun

end Complete

end CommandLine

end PageFlow
