import PageFlow.Proofs.Agreement
import PageFlow.Proofs.Entries
import PageFlow.Proofs.Equality
import PageFlow.Proofs.Undertakings

/-!
# Verdicts

A run that is started on the command line ends with the exit code zero exactly
if every source that it has come to has a result without failed steps. A source
by itself and several of them are judged in two ways that agree, and either
agrees with the reports of the runs.
-/

namespace PageFlow

open Act

variable {σ : Type} {driver : Driver σ} {runner : Runner} {options : RunOptions}

/-! ## Batches -/

theorem BatchResult.totalFailed_of_failed {batch : BatchResult}
    (none : ∀ result ∈ batch.results, result.failed = 0) :
    batch.totalFailed = 0 := by
  obtain ⟨results, errors⟩ := batch
  unfold totalFailed
  dsimp only at none ⊢
  induction results with
  | nil => rfl
  | cons result results induction =>
      obtain ⟨first, later⟩ := List.forall_mem_cons.mp none
      rw [List.map_cons, List.foldr_cons, first, induction later]
      rfl

/-- A batch is a success if it has no errors and all of its results are
successes. -/
theorem BatchResult.success_iff {batch : BatchResult}
    (counts : ∀ result ∈ batch.results, 0 ≤ result.failed) :
    batch.success = true ↔ batch.errors = [] ∧ ∀ result ∈ batch.results,
      result.success = true := by
  simp only [success, Bool.and_eq_true, List.isEmpty_iff, beq_iff_eq,
    RunResult.success]
  apply and_congr_right
  intro _
  constructor
  · exact failed_of_totalFailed counts
  · exact totalFailed_of_failed

theorem BatchResult.tell_eq_nil {failures : List (String × String)} :
    tell [] failures = [] ↔ failures = [] := by
  rw [← List.length_eq_zero_iff, length_tell, List.length_eq_zero_iff]
  simp

namespace Turn

/-- The source has a result without failed steps. -/
def Passed (turn : Turn σ) : Prop :=
  ∃ result, turn.result = .ok result ∧ result.success = true

theorem stop?_of_passed {turn : Turn σ} (passed : turn.Passed) :
    turn.stop? = none := by
  obtain ⟨result, came, -⟩ := passed
  rw [stop?, came]

theorem passed_iff {turn : Turn σ} :
    turn.Passed ↔ turn.failure? = none ∧ ∀ result, turn.result? = some result →
      result.success = true := by
  unfold Passed failure? result?
  cases turn.result <;> simp [Except.toOption]

/-- A batch is a success exactly if all of its turns have passed. -/
theorem success_foldl_addTo {turns : List (Turn σ)}
    (counts : ∀ turn ∈ turns, ∀ result, turn.result = .ok result →
      0 ≤ result.failed) :
    (turns.foldl addTo .empty).success = true ↔ ∀ turn ∈ turns,
      turn.Passed := by
  have results {result : RunResult} :
      result ∈ (turns.foldl addTo .empty).results ↔ ∃ turn ∈ turns,
        turn.result? = some result := by
    simp [foldl_addTo, BatchResult.empty]
  have errors : (turns.foldl addTo .empty).errors = [] ↔ ∀ turn ∈ turns,
      turn.failure? = none := by
    rw [foldl_addTo, ← List.filterMap_eq_nil_iff]
    exact BatchResult.tell_eq_nil
  rw [BatchResult.success_iff, errors]
  · constructor
    · rintro ⟨unfailed, successes⟩ turn member
      refine passed_iff.mpr ⟨unfailed turn member, fun result came => ?_⟩
      exact successes result (results.mpr ⟨turn, member, came⟩)
    · intro passed
      constructor
      · intro turn member
        exact (passed_iff.mp (passed turn member)).1
      · intro result among
        obtain ⟨turn, member, came⟩ := results.mp among
        exact (passed_iff.mp (passed turn member)).2 result came
  · intro result among
    obtain ⟨turn, member, came⟩ := results.mp among
    exact counts turn member result (eq_ok_of_toOption came)

/-- What turns of sources with names come to is a success exactly if all of them
have passed. -/
theorem success_of_comeTo {attempt : FlowSource → Act σ RunResult}
    {sources : List FlowSource} {world : World σ}
    (named : ∀ source ∈ sources, source.key = .ok source.text)
    (counts : ∀ turn ∈ all attempt options sources world,
      ∀ result, turn.result = .ok result → 0 ≤ result.failed) :
    (∃ batch, comeTo (halt? attempt options sources world)
        (all attempt options sources world) .empty = .ok batch ∧
        batch.success = true) ↔
      ∀ turn ∈ all attempt options sources world, turn.Passed := by
  constructor
  · rintro ⟨batch, came, success⟩
    obtain ⟨-, rfl⟩ := eq_of_comeTo came
    exact (success_foldl_addTo counts).mp success
  · intro passed
    have unstopped : halt? attempt options sources world = none := by
      rw [halt?_of_named named, List.findSome?_eq_none_iff]
      intro turn member
      exact stop?_of_passed (passed turn member)
    refine ⟨_, ?_, (success_foldl_addTo counts).mpr passed⟩
    rw [unstopped]
    rfl

theorem failed_nonneg {sources : List FlowSource} {world : World σ}
    {turn : Turn σ} {result : RunResult}
    (among : turn ∈ all (runner.runSource driver options) options sources world)
    (came : turn.result = .ok result) : 0 ≤ result.failed := by
  obtain ⟨source, before, rfl⟩ := mem_all among
  exact Runner.failed_nonneg (Prod.ext came rfl)

end Turn

namespace CommandLine

/-! ## The turns of a command -/

/-- The turns that a command takes: a source by itself is run with its report,
several sources are a batch. -/
def turns (driver : Driver σ) (runner : Runner) (options : RunOptions) :
    List FlowSource → World σ → List (Turn σ)
  | [source], world => [Turn.take (runner.run driver options) source world]
  | sources, world =>
      Turn.all (runner.runSource driver options) options sources world

theorem wellFormed_of_turns {sources : List FlowSource} {world : World σ}
    {turn : Turn σ} {result : RunResult}
    (among : turn ∈ turns driver runner options sources world)
    (came : turn.result = .ok result) : result.WellFormed := by
  have batch (sources : List FlowSource)
      (among : turn ∈ Turn.all (runner.runSource driver options) options
        sources world) :
      result.WellFormed := by
    obtain ⟨source, before, rfl⟩ := Turn.mem_all among
    exact Runner.wellFormed_of_runSource (Prod.ext came rfl)
  match sources with
  | [] => exact batch [] among
  | [source] =>
      rw [List.mem_singleton.mp among] at came
      obtain ⟨_, ran, _⟩ := Runner.runSource_of_run (Prod.ext came rfl)
      exact Runner.wellFormed_of_runSource ran
  | first :: second :: rest => exact batch (first :: second :: rest) among

theorem gatherAll_success {sources : List FlowSource} {world : World σ}
    (named : ∀ source ∈ sources, source.key = .ok source.text) :
    (∃ batch after,
        gatherAll driver runner options sources world = (.ok batch, after) ∧
      batch.success = true) ↔
      ∀ turn ∈ Turn.all (runner.runSource driver options) options sources world,
        turn.Passed := by
  rw [← Turn.success_of_comeTo named fun turn among result =>
    Turn.failed_nonneg among]
  constructor
  · rintro ⟨batch, after, gathered, success⟩
    obtain ⟨found, _, ran, rest⟩ := bind_eq_ok.mp gathered
    obtain ⟨_, _, _, ended⟩ := bind_eq_ok.mp rest
    cases ended
    obtain ⟨between, each⟩ := Runner.runEach_of_runAll ran
    rw [Runner.runEach_eq_turns] at each
    exact ⟨batch, congrArg Prod.fst each, success⟩
  · rintro ⟨batch, came, success⟩
    have each : runner.runEach driver options sources .empty world =
        (.ok batch, Turn.behind world
        (Turn.all (runner.runSource driver options) options
          sources world)) := by
      rw [Runner.runEach_eq_turns, came]
    obtain ⟨after, ran⟩ := Runner.runAll_of_runEach each
    have quiet : batch.errors = [] := by
      simp only [BatchResult.success, Bool.and_eq_true,
        List.isEmpty_iff] at success
      exact success.1
    refine ⟨batch, after, ?_, success⟩
    rw [gatherAll, bind_of_ok ran, quiet]
    rfl

/-- The batch of a command is a success exactly if all of its turns have
passed. -/
theorem gather_success {sources : List FlowSource} {world : World σ}
    (named : ∀ source ∈ sources, source.key = .ok source.text) :
    (∃ batch after,
        gather driver runner options sources world = (.ok batch, after) ∧
      batch.success = true) ↔
        ∀ turn ∈ turns driver runner options sources world, turn.Passed := by
  match sources with
  | [] => exact gatherAll_success named
  | [source] =>
      rw [turns, List.forall_mem_singleton]
      constructor
      · rintro ⟨batch, after, gathered, success⟩
        obtain ⟨settled, _, settling, rest⟩ := bind_eq_ok.mp gathered
        cases settled with
        | error fault =>
            obtain ⟨_, _, _, ended⟩ := bind_eq_ok.mp rest
            cases ended
            simp [BatchResult.success] at success
        | ok result =>
            cases rest
            refine ⟨result, congrArg Prod.fst (settle_eq_ok_ok settling), ?_⟩
            simpa [BatchResult.success, BatchResult.totalFailed,
              RunResult.success] using success
      · rintro ⟨result, came, success⟩
        have ran : runner.run driver options source world =
            (.ok result, (runner.run driver options source world).2) :=
          Prod.ext came rfl
        have gathered : gather driver runner options [source] world =
            (.ok ⟨[result], []⟩,
              (runner.run driver options source world).2) := by
          rw [gather, bind_of_ok (settle_of_ok ran)]
          rfl
        refine ⟨_, _, gathered, ?_⟩
        simpa [BatchResult.success, BatchResult.totalFailed, RunResult.success]
          using success
  | first :: second :: rest => exact gatherAll_success named

/-! ## Exit codes -/

/-- The targets lead to sources, for which there is a runner. -/
def Reaches (targets : List String) (world : World σ) (runner : Runner)
    (ready : World σ) (sources : List FlowSource) : Prop :=
  ∃ paths, expandTargets world.files targets = .ok paths ∧
    missingPaths world.files paths = .ok [] ∧
    paths ≠ [] ∧ standardRunner world = (.ok runner, ready) ∧
    sourcesOf ready.files ready.environment paths = .ok sources

theorem Reaches.unique {targets : List String} {world ready other : World σ}
    {runner twin : Runner} {sources others : List FlowSource}
    (reached : Reaches targets world runner ready sources)
    (again : Reaches targets world twin other others) :
    twin = runner ∧ other = ready ∧ others = sources := by
  obtain ⟨paths, expanded, _, _, made, sourced⟩ := reached
  obtain ⟨same, expanded', _, _, made', sourced'⟩ := again
  cases expanded.symm.trans expanded'
  cases made.symm.trans made'
  cases sourced.symm.trans sourced'
  exact ⟨rfl, rfl, rfl⟩

theorem closing_eq_zero {act : Act σ Ending} {world : World σ} :
    (closing act world).1 = .ok (.code 0) ↔ (act world).1 = .ok (.code 0) := by
  unfold closing
  split
  · rename_i kind text cause after ended
    rw [ended]
    apply iff_of_false
    · cases cause <;> intro zero <;> cases zero
    · intro zero
      cases zero
  · rfl

theorem perform_run_eq_zero {targets : List String} {values : RunValues}
    {world : World σ} :
    (perform driver (.run targets values) world).1 = .ok (.code 0) ↔
      ∃ runner ready sources, Reaches targets world runner ready sources ∧
        ∀ turn ∈ turns driver runner values.options sources (begun ready),
          turn.Passed := by
  constructor
  · intro zero
    obtain ⟨paths, runner, ready, sources, batch, after, expanded, present,
        some, made, sourced, gathered, success⟩ := gather_of_perform_run zero
    refine ⟨runner, ready, sources,
      ⟨paths, expanded, present, some, made, sourced⟩, ?_⟩
    exact (gather_success fun _ => key_of_sourcesOf sourced).mp
      ⟨batch, after, gathered, success⟩
  · rintro ⟨runner, ready, sources,
      ⟨paths, expanded, present, some, made, sourced⟩, passed⟩
    obtain ⟨batch, after, gathered, success⟩ :=
      (gather_success fun _ => key_of_sourcesOf sourced).mpr passed
    rw [perform_run_of_gather expanded present some made sourced gathered,
      success]
    rfl

/-- The reports of every run agree on its verdict. A run of targets exits with
zero exactly if it has come to sources and every turn that was taken has passed:
none raised a fault, and every result has that verdict. -/
theorem verdicts_agree (driver : Driver σ) :
    (∀ (runner : Runner) (options : RunOptions) (source : FlowSource)
        (world after : World σ) (result : RunResult),
      runner.run driver options source world = (.ok result, after) →
      ∀ timestamp, ∃ entries counts,
        Report.Agrees result (Report.document timestamp result) entries
          counts) ∧
      ∀ (targets : List String) (values : RunValues) (world : World σ),
        let ending := (closing (perform driver (.run targets values)) world).1
        (ending = .ok (.code 0) →
          ∃ runner ready sources, Reaches targets world runner ready sources) ∧
        ∀ runner ready sources, Reaches targets world runner ready sources →
          (ending = .ok (.code 0) ↔
            ∀ turn ∈ turns driver runner values.options sources (begun ready),
              turn.Passed) ∧
          ∀ turn ∈ turns driver runner values.options sources (begun ready),
            ∀ result, turn.result = .ok result →
            ∀ timestamp, ∃ entries counts,
              Report.Agrees result (Report.document timestamp result) entries
                counts := by
  constructor
  · intro runner options source world after result ran timestamp
    obtain ⟨_, sourced, _⟩ := Runner.runSource_of_run ran
    exact ⟨_, _,
      Report.agrees_document timestamp (Runner.wellFormed_of_runSource sourced)⟩
  · intro targets values world ending
    have zero : ending = .ok (.code 0) ↔ _ :=
      closing_eq_zero.trans perform_run_eq_zero
    constructor
    · intro ended
      obtain ⟨runner, ready, sources, reached, -⟩ := zero.mp ended
      exact ⟨runner, ready, sources, reached⟩
    · intro runner ready sources reached
      constructor
      · rw [zero]
        constructor
        · rintro ⟨twin, other, others, again, passed⟩
          obtain ⟨rfl, rfl, rfl⟩ := reached.unique again
          exact passed
        · intro passed
          exact ⟨runner, ready, sources, reached, passed⟩
      · intro turn among result came timestamp
        exact ⟨_, _,
          Report.agrees_document timestamp (wellFormed_of_turns among came)⟩

private def idlePath : Path := ⟨.root, ["idle.json"]⟩

private def idleFiles : FileSystem :=
  ⟨[(["idle.json"],
    .file [123, 34, 110, 97, 109, 101, 34, 58, 34, 73, 100, 108, 101, 34, 44,
      34, 115, 116, 101, 112, 115, 34, 58, 91, 93, 125])], []⟩

private theorem readDocuments_idle : Flow.readDocuments idleFiles idlePath =
    .ok [.dict [(.text "name", .text "Idle"), (.text "steps", .list [])]] := by
  have present : idleFiles.exists? idlePath = .ok true :=
    eq_ok_of_toOption (by decide +kernel)
  have text :
      Flow.fileText idleFiles idlePath =
        .ok "\x7b\"name\":\"Idle\",\"steps\":[]\x7d" :=
    eq_ok_of_toOption (by decide +kernel)
  have json : Flow.isJsonFile idlePath := by decide +kernel
  rw [Flow.readDocuments, present, text]
  dsimp only
  rw [Flow.documentsOf, if_pos json]
  decide +kernel

private theorem load_idle :
    Flow.load idleFiles ⟨[]⟩ idlePath = .ok ⟨"Idle", none, none, []⟩ := by
  rw [Flow.load, readDocuments_idle]
  decide +kernel

private theorem reaches_idle :
    Reaches ["/idle.json"] (.rehearsal .plain idleFiles)
    ⟨.rehearsal, .absent, .ofSettings .rehearsal⟩ (.rehearsal .plain idleFiles)
      [.located idlePath] := by
  have expanded : expandTargets idleFiles ["/idle.json"] = .ok [idlePath] :=
    eq_ok_of_toOption (by decide +kernel)
  have present : missingPaths idleFiles [idlePath] = .ok [] :=
    eq_ok_of_toOption (by decide +kernel)
  have loaded :
      Flow.loadAll idleFiles ⟨[]⟩ idlePath =
        .ok [⟨"Idle", none, none, []⟩] := by
    rw [Flow.loadAll, readDocuments_idle]
    decide +kernel
  have part :
      sourcesOfFile idleFiles ⟨[]⟩ idlePath = .ok [.located idlePath] := by
    rw [sourcesOfFile, loaded]
    rfl
  refine ⟨[idlePath], expanded, present, by simp,
    standardRunner_rehearsal _ _, ?_⟩
  exact sourcesOf_eq_ok.mpr ⟨[[.located idlePath]], .cons part .nil, rfl⟩

private theorem passed_idle {source : FlowSource}
    (loaded : Runner.loadFlow source (begun (.rehearsal .plain idleFiles)) =
      (.ok ⟨"Idle", none, none, []⟩, begun (.rehearsal .plain idleFiles))) :
    (Turn.take ((⟨.rehearsal, .absent, .ofSettings .rehearsal⟩ : Runner).run
      Script.plain.driver .none) source
      (begun (.rehearsal .plain idleFiles))).Passed := by
  let runner : Runner := ⟨.rehearsal, .absent, .ofSettings .rehearsal⟩
  have absent : runner.recorder.Polite := trivial
  have facts : ((runner.run Script.plain.driver .none source
      (begun (.rehearsal .plain idleFiles))).1.toOption.map (·.failed)) =
        some 0 := by
    rw [Runner.result_of_run absent, Runner.runSource, bind_of_ok loaded]
    decide +kernel
  obtain ⟨result, came, none⟩ := Option.map_eq_some_iff.mp facts
  exact ⟨result, eq_ok_of_toOption came, by simp [RunResult.success, none]⟩

/-- A run that stops at a step that describes nothing fails in every report, and
the run of a file without steps exits with zero. -/
theorem verdicts_agree_idle :
    let driver := Script.plain.driver
    let runner : Runner := ⟨.rehearsal, .absent, .ofSettings .rehearsal⟩
    let aimless : Flow :=
      ⟨"Aimless", none, none, [.ofReason "Nothing to do" []]⟩
    (∃ result after entries counts,
      runner.run driver .none (.flow aimless) (.rehearsal .plain idleFiles) =
        (.ok result, after) ∧
      Report.Agrees result (Report.document "" result) entries counts ∧
        result.success = false) ∧
    (closing
      (perform driver (.run ["/idle.json"] ⟨none, none, none, false, false⟩))
      (.rehearsal .plain idleFiles)).1 = .ok (.code 0) := by
  intro driver runner aimless
  have absent : runner.recorder.Polite := trivial
  obtain ⟨agree, exits⟩ := verdicts_agree driver
  constructor
  · have facts : ((runner.run driver .none (.flow aimless)
        (.rehearsal .plain idleFiles)).1.toOption.map (·.failed)) = some 1 := by
      rw [Runner.result_of_run absent]
      decide +kernel
    rcases ran : runner.run driver .none (.flow aimless)
      (.rehearsal .plain idleFiles)
      with ⟨_ | result, after⟩
    · rw [ran] at facts
      cases facts
    · rw [ran] at facts
      obtain ⟨entries, counts, agrees⟩ := agree _ _ _ _ _ _ ran ""
      refine ⟨result, after, entries, counts, rfl, agrees, ?_⟩
      simp [RunResult.success, Option.some.inj facts]
  · obtain ⟨_, exits⟩ := exits ["/idle.json"] ⟨none, none, none, false, false⟩
      (.rehearsal .plain idleFiles)
    obtain ⟨zero, _⟩ := exits _ _ _ reaches_idle
    rw [zero, turns, List.forall_mem_singleton]
    apply passed_idle
    change ((Flow.load idleFiles ⟨[]⟩ idlePath).mapError Fault.load, _) = _
    rw [load_idle]
    rfl

end CommandLine

end PageFlow
