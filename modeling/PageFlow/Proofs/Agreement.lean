import PageFlow.Proofs.Equality
import PageFlow.Proofs.Validation

/-!
# Running after a validation

A validation loads all flows of a file at once. A run is handed the flows of a
file with several of them, but is left to load the only flow of a file again.
Both come upon the same flows, in the same order, and the malformed steps that a
validation lists are those that a run fails at without a call.
-/

namespace PageFlow

open Act FileSystem

variable {σ : Type} {driver visitor : Driver σ} {runner : Runner}
  {options : RunOptions} {world after : World σ} {flow : Flow}
  {result : RunResult}

theorem forall₂_of_common {α β γ : Type} {first : α → β → Prop}
    {second : α → γ → Prop} {items : List α} {lefts : List β} {rights : List γ}
    (one : List.Forall₂ first items lefts)
    (two : List.Forall₂ second items rights) :
    List.Forall₂ (fun left right => ∃ item, first item left ∧ second item right)
      lefts rights := by
  induction one generalizing rights with
  | nil =>
      cases two
      exact .nil
  | cons here _ induction =>
      cases two with
      | cons there rest => exact .cons ⟨_, here, there⟩ (induction rest)

/-! ## Malformed outcomes -/

/-- A flow that was made from a value, as all flows of files are. -/
def Flow.Read (flow : Flow) : Prop :=
  ∃ environment source value, Flow.ofValue environment source value = .ok flow

/-- An attempt that failed at what is wrong with its step, before any call. -/
structure Attempt.Refused (attempt : Attempt) : Prop where
  failure : attempt.outcome.success = false
  silent : attempt.calls = []
  error : ∃ reason, attempt.outcome.step.action = .malformed reason ∧
    attempt.outcome.error =
      some (Step.refusal reason attempt.outcome.step.raw).message

theorem Step.exists_reason {step : Step} (malformed : step.isMalformed) :
    ∃ reason, step.action = .malformed reason := by
  cases action : step.action with
  | malformed reason => exact ⟨reason, rfl⟩
  | _ =>
      rw [isMalformed, action] at malformed
      cases malformed

theorem Attempts.refused {context : StepContext} {attempts : List Attempt}
    {attempt : Attempt}
    (attempted : Attempts driver context world attempts after)
    (member : attempt ∈ attempts)
    (malformed : attempt.outcome.step.isMalformed) : attempt.Refused := by
  obtain ⟨reason, action⟩ := Step.exists_reason malformed
  obtain ⟨failure, error, silent⟩ := attempted.malformed member action
  exact ⟨failure, silent, reason, action, error⟩

/-- The error of a refused attempt is what a validation tells of its step. -/
theorem Attempt.Refused.error_eq {attempt : Attempt} (refused : attempt.Refused)
    (read : flow.Read) (member : attempt.outcome.step ∈ flow.steps) :
    attempt.outcome.error =
      some (CommandLine.reasonOf attempt.outcome.step) := by
  obtain ⟨environment, source, value, read⟩ := read
  obtain ⟨reason, action, error⟩ := refused.error
  have malformed : attempt.outcome.step.isMalformed := by
    rw [Step.isMalformed, action]
    rfl
  have told := Flow.reasonOf_of_ofValue read _ member malformed
  rw [error, Step.message_of_refusal action told]

namespace Runner

/-- The malformed outcomes of a result stand where the flow lists malformed
steps, and each of them was refused. The error of a flow that was read is the
reason that a validation tells. -/
def RefusesMalformed (driver : Driver σ) (runner : Runner)
    (options : RunOptions) (flow : Flow) (world : World σ) (result : RunResult)
    (after : World σ) : Prop :=
  ∃ attempts start finish,
    Attempts driver (runner.contextFor options flow) start attempts finish ∧
    result.steps = attempts.map (·.outcome) ∧
    after.events = world.events ++
        .opened (options.headless.getD runner.settings.headless) ::
      (attempts.flatMap (·.calls)).map .called ++ [.closed] ∧
    (∀ number step, (number, step) ∈ flow.malformedSteps ↔
      ∃ index attempt, number = 1 + index ∧ attempts[index]? = some attempt ∧
        attempt.outcome.step = step ∧ step.isMalformed) ∧
    ∀ attempt ∈ attempts, attempt.outcome.step.isMalformed → attempt.Refused ∧
      (flow.Read → attempt.outcome.error =
        some (CommandLine.reasonOf attempt.outcome.step))

theorem refusesMalformed_of_complete {source : FlowSource}
    (loaded : loadFlow source world = (.ok flow, world))
    (ran : runner.run driver options source world = (.ok result, after))
    (complete : result.steps.length = flow.steps.length) :
    RefusesMalformed driver runner options flow world result after := by
  obtain ⟨between, sourced, quiet⟩ := runSource_of_run ran
  obtain ⟨attempts, start, finish, duration, attempted, rfl, sequence, _,
      opening, closing⟩ :=
    runFlow_attempts (runFlow_of_runSource loaded sourced)
  have whole : attempts.length = flow.steps.length := by
    simpa [resultOf, Tally.of] using complete
  rw [whole, List.take_length] at sequence
  refine ⟨attempts, start, finish, attempted, rfl, ?_, ?_, ?_⟩
  · rw [quiet.events, closing, attempted.events, opening]
    simp
  · intro number step
    rw [Flow.malformedSteps, Flow.mem_malformedFrom, ← sequence]
    constructor
    · rintro ⟨index, same, found, malformed⟩
      rw [List.getElem?_map, Option.map_eq_some_iff] at found
      obtain ⟨attempt, there, rfl⟩ := found
      exact ⟨index, attempt, same, there, rfl, malformed⟩
    · rintro ⟨index, attempt, same, there, rfl, malformed⟩
      exact ⟨index, same, by rw [List.getElem?_map, there, Option.map_some],
        malformed⟩
  · intro attempt member malformed
    have refused := attempted.refused member malformed
    refine ⟨refused, fun read => refused.error_eq read ?_⟩
    rw [← sequence]
    exact List.mem_map_of_mem member

/-! ## Complete runs -/

/-- The result is that of a run of the flow, and all steps were attempted. -/
structure Completes (driver : Driver σ) (runner : Runner) (options : RunOptions)
    (flow : Flow) (result : RunResult) : Prop where
  ran : ∃ start finish,
    runner.runFlow driver options flow start = (.ok result, finish)
  name : result.name = flow.name
  total : result.total = flow.steps.length
  steps : result.steps.map (·.step) = flow.steps

theorem completes_of_runFlow (goesOn : options.stopOnFailure = false)
    (ran : runner.runFlow driver options flow world = (.ok result, after)) :
    Completes driver runner options flow result := by
  obtain ⟨attempts, _, _, duration, _, same, sequence, conclusion, _⟩ :=
    runFlow_attempts ran
  rw [Concludes, if_neg (by simp [goesOn]), List.length_map] at conclusion
  rw [conclusion, List.take_length] at sequence
  refine ⟨⟨world, after, ran⟩, ?_, ?_, ?_⟩
  · rw [same]
    rfl
  · rw [same]
    rfl
  · rw [same, ← sequence]
    simp [resultOf, Tally.of]

theorem Completes.sound (complete : Completes driver runner options flow result)
    (clean : flow.malformedSteps = []) :
    ∀ outcome ∈ result.steps, outcome.step.isMalformed = false := by
  intro outcome member
  have among : outcome.step ∈ flow.steps := by
    rw [← complete.steps]
    exact List.mem_map_of_mem member
  obtain ⟨index, found⟩ := List.mem_iff_getElem?.mp among
  by_contra malformed
  have listed := (Flow.mem_malformedSteps found).mpr (by simpa using malformed)
  rw [clean] at listed
  cases listed

end Runner

namespace CommandLine

variable {files : FileSystem} {environment : Environment} {path located : Path}
  {paths : List Path}

/-! ## What a validation finds -/

def flowsIn (files : FileSystem) (environment : Environment) (path : Path) :
    List (Path × Flow) :=
  match Flow.loadAll files environment path with
  | .ok flows => flows.map (path, ·)
  | .error _ => []

def flowsOf (files : FileSystem) (environment : Environment)
    (paths : List Path) : List (Path × Flow) :=
  paths.flatMap (flowsIn files environment)

/-- What a validation says of a flow without malformed steps. -/
def okLine (path : Path) (flow : Flow) : String :=
  "OK  " ++ path.text ++ "  ->  " ++ flow.name ++ " (" ++
    toString flow.steps.length ++ " steps)"

/-- Every document of the file is a flow without malformed steps. -/
def Sound (files : FileSystem) (environment : Environment) (path : Path) :
    Prop :=
  ∃ flows, Flow.loadAll files environment path = .ok flows ∧
    ∀ flow ∈ flows, flow.malformedSteps = []

theorem path_of_flowsIn
    (member : (path, flow) ∈ flowsIn files environment located) :
    located = path := by
  rw [flowsIn] at member
  split at member
  · obtain ⟨_, _, same⟩ := List.mem_map.mp member
    exact congrArg Prod.fst same
  · cases member

theorem malformedSteps_of_flowsIn (sound : Sound files environment path)
    (member : (located, flow) ∈ flowsIn files environment path) :
    flow.malformedSteps = [] := by
  obtain ⟨flows, loaded, sound⟩ := sound
  rw [flowsIn, loaded] at member
  obtain ⟨_, among, same⟩ := List.mem_map.mp member
  cases same
  exact sound flow among

theorem malformedSteps_of_flowsOf
    (sound : ∀ path ∈ paths, Sound files environment path)
    {listed : Path × Flow} (member : listed ∈ flowsOf files environment paths) :
    listed.2.malformedSteps = [] := by
  obtain ⟨path, among, there⟩ := List.mem_flatMap.mp member
  exact malformedSteps_of_flowsIn (sound path among) there

theorem checkFile_iff :
    (checkFile files environment path).2 = true ↔
      Sound files environment path := by
  rw [checkFile, Sound]
  cases Flow.loadAll files environment path with
  | error fault => simp
  | ok flows => simp

theorem checkFile_of_sound (sound : Sound files environment path) :
    (checkFile files environment path).1 =
      (flowsIn files environment path).map fun listed =>
        okLine listed.1 listed.2 := by
  obtain ⟨flows, loaded, sound⟩ := sound
  have lines : flows.flatMap (flowLines path) = flows.flatMap fun flow =>
      [okLine path flow] := by
    refine List.flatMap_congr fun flow member => ?_
    rw [flowLines, sound flow member]
    rfl
  rw [checkFile, flowsIn, loaded]
  dsimp only
  rw [lines, List.map_map, List.map_eq_flatMap]
  rfl

/-- A validation without complaints finds the flows of the files to be right,
and nothing else. -/
theorem checkFiles_of_sound
    (sound : (checkFiles files environment paths).2 = true) :
    (∀ path ∈ paths, Sound files environment path) ∧
      (checkFiles files environment paths).1 =
        (flowsOf files environment paths).map fun listed =>
          okLine listed.1 listed.2 := by
  rw [checkFiles, List.all_map, List.all_eq_true] at sound
  have each : ∀ path ∈ paths, Sound files environment path := fun path member =>
    checkFile_iff.mp (sound path member)
  refine ⟨each, ?_⟩
  rw [checkFiles, flowsOf, List.flatMap_map, List.map_flatMap]
  exact List.flatMap_congr fun path member =>
    checkFile_of_sound (each path member)

/-! ## What a run goes through -/

/-- The flow that a source stands for, with the path of its file. -/
inductive Stands (files : FileSystem) (environment : Environment) :
    FlowSource → Path × Flow → Prop where
  | flow (path : Path) (flow : Flow) :
    Stands files environment (.flow flow) (path, flow)
  | located {path : Path} {flow : Flow} :
      Flow.load files environment path = .ok flow →
      Stands files environment (.located path) (path, flow)

theorem sourcesOfFile_of_sound (sound : Sound files environment path) :
    ∃ part, sourcesOfFile files environment path = .ok part ∧
      List.Forall₂ (Stands files environment) part
        (flowsIn files environment path) := by
  obtain ⟨flows, loaded, _⟩ := sound
  rw [sourcesOfFile, flowsIn, loaded]
  refine ⟨_, rfl, ?_⟩
  dsimp only
  by_cases several : flows.length > 1
  · rw [if_pos several, List.forall₂_map_left_iff, List.forall₂_map_right_iff,
      List.forall₂_same]
    exact fun flow _ => .flow path flow
  · rw [if_neg several]
    cases flows with
    | nil => exact (Flow.ne_nil_of_loadAll loaded rfl).elim
    | cons flow rest =>
        have last : rest = [] :=
          List.eq_nil_of_length_eq_zero (by simpa using several)
        subst last
        exact .cons (.located (Flow.load_of_loadAll loaded)) .nil

theorem sourcesOf_of_sound
    (sound : ∀ path ∈ paths, Sound files environment path) :
    ∃ sources, sourcesOf files environment paths = .ok sources ∧
      List.Forall₂ (Stands files environment) sources
        (flowsOf files environment paths) := by
  suffices each : ∃ parts,
      List.Forall₂ (fun path part =>
        sourcesOfFile files environment path = .ok part) paths parts ∧
      List.Forall₂ (Stands files environment) parts.flatten
      (flowsOf files environment paths) by
    obtain ⟨parts, found, stands⟩ := each
    exact ⟨parts.flatten, sourcesOf_eq_ok.mpr ⟨parts, found, rfl⟩, stands⟩
  induction paths with
  | nil => exact ⟨[], .nil, .nil⟩
  | cons path paths induction =>
      obtain ⟨part, found, stands⟩ :=
        sourcesOfFile_of_sound (sound path List.mem_cons_self)
      obtain ⟨parts, later, rest⟩ := induction fun path member =>
        sound path (List.mem_cons_of_mem _ member)
      refine ⟨part :: parts, .cons found later, ?_⟩
      rw [List.flatten_cons, flowsOf, List.flatMap_cons]
      exact List.rel_append stands rest

theorem loadFlow_of_stands {source : FlowSource} {start : World σ}
    (stands : Stands files environment source (path, flow))
    (same : Flow.load start.files start.environment path =
      Flow.load files environment path) :
    Runner.loadFlow source start = (.ok flow, start) := by
  cases stands with
  | flow => rfl
  | located loaded =>
      rw [Runner.loadFlow, same, loaded]
      rfl

/-! ## A run after a validation -/

variable {values : RunValues} {ready : World σ}

/-- What runs may have changed so far, and that they can go on. -/
structure Underway (paths : List Path) (directory : Path)
    (ready now : World σ) : Prop where
  reached :
    (Frame.upkeep (flowPlaces ready.files.workdir paths)
      ready.files.workdir).allows
    (begun ready) now
  creatable : (now.files.ensureDirectory directory).2 = .ok ()

/-- A source that stands for a flow is run to its end, and leaves the world so
that others can be. -/
theorem runSource_of_stands {source : FlowSource} {now : World σ}
    (obliging : driver.Obliging)
    (made : standardRunner world = (.ok runner, ready))
    (elsewhere : WritesElsewhere paths options runner ready)
    (present : ∀ path ∈ paths, world.files.exists? path = .ok true)
    (member : path ∈ paths)
    (stands : Stands ready.files ready.environment source (path, flow))
    (underway : Underway paths
      (options.screenshotDir.getD runner.settings.screenshotDir) ready now) :
    Runner.loadFlow source now = (.ok flow, now) ∧
      ∃ result after,
        runner.runFlow driver options flow now = (.ok result, after) ∧
        Underway paths
          (options.screenshotDir.getD runner.settings.screenshotDir)
          ready after := by
  have same : Flow.load now.files now.environment path =
      Flow.load ready.files ready.environment path := by
    rw [elsewhere.load_eq made present underway.reached path member]
    exact (elsewhere.load_eq made present (Frame.refl _ (begun ready))
      path member).symm
  refine ⟨loadFlow_of_stands stands same, ?_⟩
  obtain ⟨logs, _, _⟩ := underway.reached (elsewhere.logsAside made)
  obtain ⟨result, after, ran, stands⟩ := Runner.runFlow_of_obliging obliging
    (recorder_of_standardRunner made) elsewhere.rest logs underway.creatable
  refine ⟨result, after, ran, ?_, ?_⟩
  · exact Frame.trans _ underway.reached
      ((Runner.within_runFlow
        (Frame.upkeep_admitsRuns driver elsewhere.rest)).allows ran)
  · rw [ensureDirectory_of_find stands]

/-- Nothing that is made before a run changes the flows of files. -/
theorem flowsIn_of_standardRunner
    (made : standardRunner world = (.ok runner, ready))
    (present : world.files.exists? path = .ok true) :
    flowsIn ready.files ready.environment path =
      flowsIn world.files world.environment path := by
  rw [flowsIn, flowsIn, loadAll_of_standardRunner made present]

theorem gather_of_sound
    (sound : ∀ path ∈ paths, Sound world.files world.environment path)
    (goesOn : options.stopOnFailure = false) (obliging : driver.Obliging)
    (made : standardRunner world = (.ok runner, ready))
    (creatable : (ready.files.ensureDirectory
      (options.screenshotDir.getD runner.settings.screenshotDir)).2 = .ok ())
    (elsewhere : WritesElsewhere paths options runner ready) :
    ∃ sources results after,
      sourcesOf ready.files ready.environment paths = .ok sources ∧
      gather driver runner options sources (begun ready) =
        (.ok ⟨results, []⟩, after) ∧
      List.Forall₂ (fun listed result =>
          Runner.Completes driver runner options listed.2 result)
        (flowsOf world.files world.environment paths) results := by
  have present : ∀ path ∈ paths, world.files.exists? path = .ok true := by
    intro path member
    obtain ⟨flows, loaded, _⟩ := sound path member
    exact Flow.exists?_of_loadAll loaded
  -- Making a runner may make directories, but the flow files were there before.
  have ready_sound : ∀ path ∈ paths,
      Sound ready.files ready.environment path := by
    intro path member
    rw [Sound, loadAll_of_standardRunner made (present path member)]
    exact sound path member
  have same : flowsOf ready.files ready.environment paths =
      flowsOf world.files world.environment paths :=
    List.flatMap_congr fun path member =>
      flowsIn_of_standardRunner made (present path member)
  obtain ⟨sources, sourced, stands⟩ := sourcesOf_of_sound ready_sound
  rw [same] at stands
  have among {listed : Path × Flow}
      (member : listed ∈ flowsOf world.files world.environment paths) :
        listed.1 ∈ paths := by
    obtain ⟨path, member, there⟩ := List.mem_flatMap.mp member
    rwa [← path_of_flowsIn there]
  have each : ∀ source ∈ sources, ∀ now,
      Underway paths (options.screenshotDir.getD runner.settings.screenshotDir)
        ready now →
      ∃ result after,
        runner.runSource driver options source now = (.ok result, after) ∧
        Underway paths
          (options.screenshotDir.getD runner.settings.screenshotDir)
          ready after ∧
        ∀ listed ∈ flowsOf world.files world.environment paths,
          Stands ready.files ready.environment source listed →
          Runner.Completes driver runner options listed.2 result := by
    intro source member now underway
    obtain ⟨listed, there, here⟩ := exists_of_forall₂ stands member
    obtain ⟨loading, result, after, ran, next⟩ :=
      runSource_of_stands obliging made elsewhere present (among there)
        here underway
    refine ⟨result, after, ?_, next, ?_⟩
    · rw [Runner.runSource, bind_of_ok loading, ran]
    -- A source loads one flow only, so that it stands for no other.
    · intro other also stands
      obtain ⟨again, _⟩ :=
        runSource_of_stands obliging made elsewhere present (among also)
          stands underway
      have one : listed.2 = other.2 :=
        Except.ok.inj (congrArg Prod.fst (loading.symm.trans again))
      rw [← one]
      exact Runner.completes_of_runFlow goesOn ran
  obtain ⟨results, after, gathered, explained⟩ :=
    gather_complete goesOn (fun _ => key_of_sourcesOf sourced) each
      ⟨Frame.refl _ _, creatable⟩
  refine ⟨sources, results, after, sourced, gathered, ?_⟩
  have matched := (List.forall₂_and_left _ _).mpr
    ⟨fun _ member => member, forall₂_of_common stands explained⟩
  refine matched.imp fun listed result both => ?_
  obtain ⟨member, _, stands, complete⟩ := both
  exact complete listed member stands

/-- If a validation exits with zero, a run of the same targets goes through the
flows that it found to be right, in their order, and completes them without
errors or malformed outcomes. In any complete run the malformed outcomes are
those at the malformed steps of the flow. -/
theorem run_after_validate {targets : List String} {chosen : ValidateValues}
    {earlier : World σ}
    (valid :
      (perform visitor (.validate targets chosen) earlier).1 = .ok (.code 0))
    (sameFiles : earlier.files = world.files)
    (sameEnvironment : earlier.environment = world.environment)
    (expanded : expandTargets world.files targets = .ok paths)
    (some : paths ≠ []) (goesOn : values.stopOnFailure = false)
    (obliging : driver.Obliging)
    (made : standardRunner world = (.ok runner, ready))
    (creatable : (ready.files.ensureDirectory
      (values.options.screenshotDir.getD runner.settings.screenshotDir)).2 =
        .ok ())
    (elsewhere : WritesElsewhere paths values.options runner ready) :
    (perform visitor (.validate targets chosen) earlier).2.output =
      earlier.output ++ printedLines
        ((flowsOf world.files world.environment paths).map fun listed =>
          okLine listed.1 listed.2) ∧
    (∃ sources results after,
      sourcesOf ready.files ready.environment paths = .ok sources ∧
      gather driver runner values.options sources (begun ready) =
        (.ok ⟨results, []⟩, after) ∧
      (perform driver (.run targets values) world).1 =
        .ok (.code (codeOf (BatchResult.success ⟨results, []⟩))) ∧
      List.Forall₂ (fun listed result =>
        Runner.Completes driver runner values.options listed.2 result ∧
          ∀ outcome ∈ result.steps, outcome.step.isMalformed = false)
        (flowsOf world.files world.environment paths) results) ∧
    ∀ (runner : Runner) (options : RunOptions) (source : FlowSource)
        (flow : Flow) (start finish : World σ) (result : RunResult),
      Runner.loadFlow source start = (.ok flow, start) →
      runner.run driver options source start = (.ok result, finish) →
      result.steps.length = flow.steps.length →
      Runner.RefusesMalformed driver runner options flow start result
        finish := by
  have named : targets ≠ [] := by
    rintro rfl
    cases expanded
    exact some rfl
  have validated : perform visitor (.validate targets chosen) earlier = _ :=
    perform_validate (by rw [sameFiles]; exact expanded) named
  rw [sameFiles, sameEnvironment] at validated
  rw [validated] at valid
  have checked : (checkFiles world.files world.environment paths).2 = true := by
    by_contra complaint
    rw [codeOf, if_neg complaint] at valid
    cases valid
  obtain ⟨sound, lines⟩ := checkFiles_of_sound checked
  obtain ⟨sources, results, after, sourced, gathered, completed⟩ :=
    gather_of_sound sound goesOn obliging made creatable elsewhere
  have present : missingPaths world.files paths = .ok [] := by
    refine missingPaths_eq_nil.mpr fun path member => ?_
    obtain ⟨flows, loaded, _⟩ := sound path member
    exact Flow.exists?_of_loadAll loaded
  refine ⟨?_, ?_, ?_⟩
  · rw [validated, lines]
  · refine ⟨sources, results, after, sourced, gathered, ?_, ?_⟩
    · exact perform_run_of_gather expanded present some made sourced gathered
    · have matched := (List.forall₂_and_left _ _).mpr
        ⟨fun _ member => malformedSteps_of_flowsOf sound member, completed⟩
      exact matched.imp fun listed result both => ⟨both.2, both.2.sound both.1⟩
  · intro runner options source flow start finish result loaded ran complete
    exact Runner.refusesMalformed_of_complete loaded ran complete

/-! ## Keys -/

/-- A driver that does all that it is asked to. -/
private def willing : Driver Unit where
  launch _ _ state := ⟨.ok (), 0, state⟩
  perform _ _ state := ⟨.ok "", 0, state⟩
  release _ state := ⟨.ok (), 0, state⟩

private theorem obliging_willing : willing.Obliging where
  opens _ _ _ := rfl
  answers := by
    rintro time call state fault ⟨⟩
  closes _ _ := rfl

private def keysText : String := "name: Keys\nsteps: [{press: Enter}]\n"

private def keysBytes : List UInt8 :=
  [110, 97, 109, 101, 58, 32, 75, 101, 121, 115, 10, 115, 116, 101, 112, 115,
    58, 32, 91, 123, 112, 114, 101, 115, 115, 58, 32, 69, 110, 116, 101,
    114, 125, 93, 10]

private def keysTokens : List Yaml.Token :=
  [.blockMappingStart, .key, .scalar "name" true, .value, .scalar "Keys" true,
    .key, .scalar "steps" true, .value, .flowSequenceStart, .flowMappingStart,
    .key, .scalar "press" true, .value, .scalar "Enter" true, .flowMappingEnd,
    .flowSequenceEnd, .blockEnd, .streamEnd]

private def keysPath : Path := ⟨.root, ["keys.yaml"]⟩

private def keysFiles : FileSystem := ⟨[(["keys.yaml"], .file keysBytes)], []⟩

private def keys : Flow :=
  ⟨"Keys", none, none,
    [⟨.press "Enter", none, [(.text "press", .text "Enter")]⟩]⟩

private def keysNodes : Array Yaml.Node :=
  #[.mapping .mapping [(1, 2), (3, 4)], .scalar .text "name",
    .scalar .text "Keys", .scalar .text "steps", .sequence .sequence [5],
    .mapping .mapping [(6, 7)], .scalar .text "press", .scalar .text "Enter"]

private theorem documents_keys : Yaml.documents keysText =
    .ok [.dict [(.text "name", .text "Keys"),
      (.text "steps", .list [.dict [(.text "press", .text "Enter")]])]] := by
  let handles := [("!", "!"), ("!!", "tag:yaml.org,2002:")]
  have tokens : Yaml.tokens keysText = (keysTokens, .malformed) := by
    decide +kernel
  have first :
      (Yaml.Parse.document true).run ⟨keysTokens, .malformed, [], [], #[]⟩ =
      .ok (some 0, ⟨[.streamEnd], .malformed, handles, [], keysNodes⟩) := by
    with_unfolding_all rfl
  have second : (Yaml.Parse.document false).run
        ⟨[.streamEnd], .malformed, handles, [], keysNodes⟩ =
      .ok (none, ⟨[.streamEnd], .malformed, handles, [], #[]⟩) := by
    with_unfolding_all rfl
  have value :
      Yaml.valueOf keysNodes 0 = .ok (.dict [(.text "name", .text "Keys"),
      (.text "steps", .list [.dict [(.text "press", .text "Enter")]])]) := by
    with_unfolding_all rfl
  rw [Yaml.documents, tokens]
  dsimp only
  rw [Yaml.documentsFrom_next first value,
    show keysTokens.length = 17 + 1 from rfl, Yaml.documentsFrom_end second]
  rfl

private theorem loadAll_keys :
    Flow.loadAll keysFiles ⟨[]⟩ keysPath = .ok [keys] := by
  have present : keysFiles.exists? keysPath = .ok true :=
    eq_ok_of_toOption (by decide +kernel)
  have text : Flow.fileText keysFiles keysPath = .ok keysText :=
    eq_ok_of_toOption (by decide +kernel)
  have yaml : ¬ Flow.isJsonFile keysPath := by decide +kernel
  have read :
      Flow.readDocuments keysFiles keysPath =
        .ok [.dict [(.text "name", .text "Keys"),
      (.text "steps", .list [.dict [(.text "press", .text "Enter")]])]] := by
    rw [Flow.readDocuments, present, text]
    dsimp only
    rw [Flow.documentsOf, if_neg yaml, documents_keys]
    rfl
  have first : Flow.ofValue ⟨[]⟩ (Flow.documentSource keysPath 1)
      (.dict [(.text "name", .text "Keys"),
        (.text "steps", .list [.dict [(.text "press", .text "Enter")]])]) =
        .ok keys := by
    decide +kernel
  rw [Flow.loadAll, read]
  dsimp only
  rw [Flow.ofDocuments, first]
  rfl

private theorem expand_keys :
    expandTargets keysFiles ["/keys.yaml"] = .ok [keysPath] :=
  eq_ok_of_toOption (by decide +kernel)

private theorem validate_keys {world : World Unit}
    (there : world.files = keysFiles) (unset : world.environment = ⟨[]⟩) :
    (perform willing (.validate ["/keys.yaml"] ⟨none, true⟩) world).1 =
      .ok (.code 0) := by
  have checked :
      (checkFiles world.files world.environment [keysPath]).2 = true := by
    rw [there, unset, checkFiles]
    simp only [List.map_cons, List.map_nil, checkFile, loadAll_keys]
    rfl
  rw [perform_validate (by rw [there]; exact expand_keys) (by simp), checked]
  rfl

/-- A log that is to be kept behind the flow file, as if it were a directory. -/
private def misplacedLog : World Unit :=
  { World.before () keysFiles with
    settings := some { Settings.rehearsal with
      logToFile := true, logFile := ⟨.root, ["keys.yaml", "log"]⟩ }
    log := .start }

/-- A run may end before it begins: a validation needs no log, but a run sets it
up first. -/
theorem run_fails_after_validate :
    (perform willing (.validate ["/keys.yaml"] ⟨none, true⟩) misplacedLog).1 =
      .ok (.code 0) ∧
    (misplacedLog.files.ensureDirectory Settings.rehearsal.screenshotDir).2 =
      .ok () ∧
    willing.Obliging ∧
    (perform willing (.run ["/keys.yaml"] ⟨none, none, none, false, false⟩)
        misplacedLog).1 =
      .error (.file ⟨.alreadyExists, "/keys.yaml"⟩) := by
  have parent : (⟨.root, ["keys.yaml", "log"]⟩ : Path).parent = keysPath := by
    decide
  have blocked : (misplacedLog.files.ensureDirectory keysPath).2 =
      .error ⟨.alreadyExists, "/keys.yaml"⟩ := by
    decide +kernel
  obtain ⟨after, made⟩ : ∃ after, standardRunner misplacedLog =
      (.error (.file ⟨.alreadyExists, "/keys.yaml"⟩), after) :=
    standardRunner_of_blocked rfl rfl rfl (by rw [← blocked, ← parent])
  refine ⟨validate_keys rfl rfl, ?_, obliging_willing, ?_⟩
  · exact congrArg Prod.snd (FileSystem.ensureDirectory_root _)
  · have present : missingPaths keysFiles [keysPath] = .ok [] :=
      eq_ok_of_toOption (by decide +kernel)
    exact perform_run_of_fault expand_keys present (by simp) made

/-- A flow that does not say what to do. -/
private def aimless : Flow :=
  ⟨"Aimless", none, none, [.ofReason "Nothing to do" []]⟩

/-- The flow that a validation finds to be right is completed. -/
theorem run_after_validate_keys :
    let runner : Runner := ⟨.rehearsal, .absent, .ofSettings .rehearsal⟩
    let values : RunValues := ⟨none, none, none, false, false⟩
    let world := World.before () keysFiles
    (∃ sources results after,
      gather willing runner values.options sources (begun world) =
        (.ok ⟨results, []⟩, after) ∧
      List.Forall₂ (fun flow result =>
          Runner.Completes willing runner values.options flow result)
        [keys] results) ∧
    ∃ result finish,
      runner.run willing .none (.flow aimless) world = (.ok result, finish) ∧
      Runner.RefusesMalformed willing runner .none aimless world
        result finish := by
  intro runner values world
  have directory :
      values.options.screenshotDir.getD runner.settings.screenshotDir =
      ⟨.root, []⟩ :=
    rfl
  have creatable : (world.files.ensureDirectory
      (values.options.screenshotDir.getD runner.settings.screenshotDir)).2 =
        .ok () := by
    rw [directory, FileSystem.ensureDirectory_root]
  have elsewhere : WritesElsewhere [keysPath] values.options runner world :=
    writesElsewhere_rehearsal rfl (by decide) (by decide)
  have flows : flowsOf world.files world.environment [keysPath] =
      [(keysPath, keys)] := by
    rw [flowsOf, List.flatMap_singleton, flowsIn]
    have loaded :
        Flow.loadAll world.files world.environment keysPath = .ok [keys] :=
      loadAll_keys
    rw [loaded]
    rfl
  have valid :
      (perform willing (.validate ["/keys.yaml"] ⟨none, true⟩) world).1 =
      .ok (.code 0) :=
    validate_keys rfl rfl
  obtain ⟨_, ⟨sources, results, after, _, gathered, _, matched⟩, refuses⟩ :=
    run_after_validate valid rfl rfl expand_keys (by simp) rfl obliging_willing
      (standardRunner_rehearsal () keysFiles) creatable elsewhere
  rw [flows] at matched
  refine ⟨⟨sources, results, after, gathered, ?_⟩, ?_⟩
  · cases matched with
    | cons first rest =>
        cases rest
        exact .cons first.1 .nil
  · have absent : runner.recorder.Polite := trivial
    have length :
        ((runner.run willing .none (.flow aimless) world).1.toOption.map
          (·.steps.length)) = some 1 := by
      rw [Runner.result_of_run absent]
      decide +kernel
    rcases ran : runner.run willing .none (.flow aimless) world
      with ⟨_ | result, finish⟩
    · rw [ran] at length
      cases length
    · rw [ran] at length
      exact ⟨result, finish, rfl,
        refuses runner .none (.flow aimless) aimless world finish result rfl ran
          (Option.some.inj length)⟩

end CommandLine

end PageFlow
