import PageFlow.Proofs.Commands
import PageFlow.Proofs.Equality
import PageFlow.Proofs.Malformed
import PageFlow.Proofs.Rehearsal

/-!
# Validating after a run

A run that exits with zero has loaded a flow from every file and carried out all
of its steps, so that none of them is malformed. It has looked at the first
document of a file alone if a later one cannot be loaded: such a file passes in
a run and is rejected by a validation.
-/

namespace PageFlow.CommandLine

open Act FileSystem

variable {σ : Type} {driver visitor : Driver σ} {paths : List Path}
  {options : RunOptions} {runner : Runner} {world ready : World σ}

def flowPlaces (workdir : Place) (paths : List Path) (place : Place) : Prop :=
  ∃ path ∈ paths, place = placeOf workdir path

/-- What a run writes goes to no flow file: neither the log nor the screenshots
nor the history. -/
structure WritesElsewhere (paths : List Path) (options : RunOptions)
    (runner : Runner) (ready : World σ) : Prop where
  log : ∀ path, ready.log.file = some path →
    ¬ flowPlaces ready.files.workdir paths (placeOf ready.files.workdir path)
  rest : WritesAside (flowPlaces ready.files.workdir paths) ready.files.workdir
    (options.screenshotDir.getD runner.settings.screenshotDir) runner.recorder

theorem WritesElsewhere.logsAside
    (elsewhere : WritesElsewhere paths options runner ready)
    (made : standardRunner world = (.ok runner, ready)) :
    (begun ready).LogsAside (flowPlaces ready.files.workdir paths)
      ready.files.workdir := by
  have threshold : ready.log.threshold.isSome := Runner.isSome_of_make made
  exact ⟨rfl, threshold, elsewhere.log⟩

/-- The first document of a file is a flow, and a later one is none. -/
def hidesFault (files : FileSystem) (environment : Environment) (path : Path) :
    Bool :=
  match Flow.load files environment path,
    Flow.loadAll files environment path with
  | .ok _, .error _ => true
  | _, _ => false

theorem hidesFault_of_loadAll {files : FileSystem} {environment : Environment}
    {path : Path} {flows : List Flow}
    (loaded : Flow.loadAll files environment path = .ok flows) :
    hidesFault files environment path = false := by
  rw [hidesFault, loaded]
  cases Flow.load files environment path <;> rfl

theorem WritesElsewhere.load_eq
    (elsewhere : WritesElsewhere paths options runner ready)
    (made : standardRunner world = (.ok runner, ready))
    (present : ∀ path ∈ paths, world.files.exists? path = .ok true)
    {start : World σ}
    (reached :
      (Frame.upkeep (flowPlaces ready.files.workdir paths)
        ready.files.workdir).allows (begun ready) start) :
    ∀ path ∈ paths, Flow.load start.files start.environment path =
      Flow.load world.files world.environment path := by
  intro path member
  obtain ⟨_, extended, environment⟩ := reached (elsewhere.logsAside made)
  obtain ⟨grown, same⟩ :=
    extends_of_standardRunner made (flowPlaces ready.files.workdir paths)
  have whole :
      Extends (flowPlaces ready.files.workdir paths) world.files start.files :=
    grown.trans extended
  have place :
      flowPlaces ready.files.workdir paths (placeOf world.files.workdir path) :=
    ⟨path, member, by rw [grown.workdir]⟩
  rw [environment, show (begun ready).environment = world.environment from same,
    Flow.load_of_extends whole place (present path member)]

theorem loadAll_of_standardRunner
    (made : standardRunner world = (.ok runner, ready)) {path : Path}
    (present : world.files.exists? path = .ok true) :
    Flow.loadAll ready.files ready.environment path =
      Flow.loadAll world.files world.environment path := by
  obtain ⟨grown, same⟩ := extends_of_standardRunner made fun _ => True
  rw [same, Flow.loadAll_of_extends grown trivial present]

theorem load_of_loadFlow {path : Path} {flow : Flow} {start between : World σ}
    (loading : Runner.loadFlow (.located path) start = (.ok flow, between)) :
    Flow.load start.files start.environment path = .ok flow ∧
      between = start := by
  have result :
      (Flow.load start.files start.environment path).mapError Fault.load =
        .ok flow :=
    congrArg Prod.fst loading
  refine ⟨?_, (congrArg Prod.snd loading).symm⟩
  cases loaded : Flow.load start.files start.environment path with
  | error fault =>
      rw [loaded] at result
      cases result
  | ok found =>
      rw [loaded] at result
      cases result
      rfl

/-- A file that a run is content with passes a check, unless it hides a
fault. -/
private theorem checkFile_of_run {path : Path} {part : List FlowSource}
    (elsewhere : WritesElsewhere paths options runner ready)
    (made : standardRunner world = (.ok runner, ready))
    (present : ∀ path ∈ paths, world.files.exists? path = .ok true)
    (member : path ∈ paths)
    (own : sourcesOfFile ready.files ready.environment path = .ok part)
    (clean : ∀ source ∈ part, ∃ start result finish,
      (Frame.upkeep (flowPlaces ready.files.workdir paths)
        ready.files.workdir).allows
        (begun ready) start ∧
      runner.runSource driver options source start = (.ok result, finish) ∧
      result.failed = 0) :
    (checkFile world.files world.environment path).2 =
      !hidesFault world.files world.environment path := by
  have located (single : .located path ∈ part) :
      ∃ flow, Flow.load world.files world.environment path = .ok flow ∧
        flow.malformedSteps = [] := by
    obtain ⟨start, result, finish, reached, ran, none⟩ := clean _ single
    obtain ⟨flow, _, loading, _⟩ := bind_eq_ok.mp ran
    obtain ⟨loaded, rfl⟩ := load_of_loadFlow loading
    rw [elsewhere.load_eq made present reached path member] at loaded
    exact ⟨flow, loaded, Runner.malformedSteps_of_failed loading ran none⟩
  rw [sourcesOfFile,
    loadAll_of_standardRunner made (present path member)] at own
  cases all : Flow.loadAll world.files world.environment path with
  | error fault =>
      -- The fault was passed over, and the run has loaded the first document.
      rw [all] at own
      dsimp only at own
      split at own <;> cases own
      obtain ⟨flow, loaded, _⟩ := located (List.mem_singleton_self _)
      simp only [checkFile, hidesFault, all, loaded, Bool.not_true]
  | ok flows =>
      rw [all] at own
      cases own
      rw [hidesFault_of_loadAll all, checkFile, all]
      simp only [Bool.not_false, List.all_eq_true, List.isEmpty_iff]
      intro flow among
      by_cases several : flows.length > 1
      · rw [if_pos several] at clean
        obtain ⟨start, result, finish, _, ran, none⟩ :=
          clean (.flow flow) (List.mem_map_of_mem among)
        exact Runner.malformedSteps_of_failed rfl ran none
      · rw [if_neg several] at located
        obtain ⟨found, loaded, sound⟩ := located (List.mem_singleton_self _)
        cases flows with
        | nil => cases among
        | cons first rest =>
            have last : rest = [] :=
              List.eq_nil_of_length_eq_zero (by simpa using several)
            subst last
            rw [Flow.load_of_loadAll all] at loaded
            cases loaded
            rw [List.mem_singleton.mp among]
            exact sound

/-- A run that exits with zero is confirmed by a validation of the same targets,
as long as nobody else changes files or environment: every document of every
file is a flow without malformed steps, except that a file may hide a fault
behind its first document. -/
theorem validate_after_run {targets : List String} {values : RunValues}
    {chosen : ValidateValues} {later : World σ}
    (success : (perform driver (.run targets values) world).1 = .ok (.code 0))
    (expanded : expandTargets world.files targets = .ok paths)
    (made : standardRunner world = (.ok runner, ready))
    (elsewhere : WritesElsewhere paths values.options runner ready)
    (sameFiles : later.files = world.files)
    (sameEnvironment : later.environment = world.environment) :
    (perform visitor (.validate targets chosen) later).1 =
      .ok (.code (if paths.any (hidesFault world.files world.environment) then 1
        else 0)) := by
  obtain ⟨paths', runner', ready', sources, batch, after, expanded', missing,
      some, made', sourced, gathered, successful⟩ :=
      gather_of_perform_run success
  rw [expanded] at expanded'
  cases expanded'
  rw [made] at made'
  cases made'
  have present := missingPaths_eq_nil.mp missing
  have clean :=
    gather_sound (Frame.upkeep_admitsRuns driver elsewhere.rest) rfl
      gathered successful
  obtain ⟨parts, each, rfl⟩ := sourcesOf_eq_ok.mp sourced
  have named : targets ≠ [] := by
    rintro rfl
    cases expanded
    exact some rfl
  have checked : (checkFiles world.files world.environment paths).2 =
      !paths.any (hidesFault world.files world.environment) := by
    rw [checkFiles, List.all_map, List.not_any_eq_all_not, Bool.eq_iff_iff,
      List.all_eq_true, List.all_eq_true]
    refine forall₂_congr fun path member => ?_
    obtain ⟨part, among, own⟩ := exists_of_forall₂ each member
    have checked :=
      checkFile_of_run elsewhere made present member own fun source found =>
      clean source (List.mem_flatten_of_mem among found)
    rw [Function.comp_apply, checked]
  rw [perform_validate (by rw [sameFiles]; exact expanded) named, sameFiles,
    sameEnvironment, checked]
  cases paths.any (hidesFault world.files world.environment) <;> rfl

/-! ## A fault behind the first document -/

theorem standardRunner_rehearsal (session : σ) (files : FileSystem) :
    standardRunner (World.before session files) =
      (.ok ⟨.rehearsal, .absent, .ofSettings .rehearsal⟩,
        World.before session files) :=
  rfl

/-- In a rehearsal nothing but screenshots is written, and these into the
root. -/
theorem writesElsewhere_rehearsal {session : σ} {files : FileSystem}
    {name : String} {values : RunValues} (default : values.screenshotDir = none)
    (plain : name ≠ "..") (other : name.toList.getLast? ≠ some 'g') :
    WritesElsewhere [⟨.root, [name]⟩] values.options ⟨.rehearsal, .absent,
        .ofSettings .rehearsal⟩
      (World.before session files) := by
  have place : placeOf files.workdir ⟨.root, [name]⟩ = [name] := by
    change destination [] [name] = _
    rw [destination, if_neg plain]
    rfl
  have directory :
      values.options.screenshotDir.getD Settings.rehearsal.screenshotDir =
      ⟨.root, []⟩ := by
    simp only [RunValues.options, default]
    rfl
  refine ⟨?_, ?_, ?_⟩
  · rintro path ⟨⟩
  · rintro label time ⟨path, member, same⟩
    rw [List.mem_singleton.mp member, directory, placeOf_screenshot] at same
    exact Screenshot.fileName_ne other
      (List.singleton_inj.mp (same.trans place))
  · rintro path ⟨⟩

/-- A flow without steps, and behind it a document that is no flow. -/
private def twoDocuments : String :=
  "name: First\nsteps: []\n---\njust a text\n"

private def twoBytes : List UInt8 :=
  [110, 97, 109, 101, 58, 32, 70, 105, 114, 115, 116, 10, 115, 116, 101, 112,
    115, 58, 32, 91, 93, 10, 45, 45, 45, 10, 106, 117, 115, 116, 32, 97, 32,
    116, 101, 120, 116, 10]

private def twoTokens : List Yaml.Token :=
  [.blockMappingStart, .key, .scalar "name" true, .value, .scalar "First" true,
    .key, .scalar "steps" true, .value, .flowSequenceStart, .flowSequenceEnd,
    .blockEnd, .documentStart, .scalar "just a text" true, .streamEnd]

private def twoPath : Path := ⟨.root, ["two.yaml"]⟩

private def twoWorld : World (List (ScriptedFailure × Nat)) :=
  .rehearsal .plain ⟨[(["two.yaml"], .file twoBytes)], []⟩

private def firstNodes : Array Yaml.Node :=
  #[.mapping .mapping [(1, 2), (3, 4)], .scalar .text "name",
    .scalar .text "First", .scalar .text "steps", .sequence .sequence []]

private def secondNodes : Array Yaml.Node :=
  #[.scalar .text "just a text"]

private theorem documents_two : Yaml.documents twoDocuments =
    .ok [.dict [(.text "name", .text "First"), (.text "steps", .list [])],
      .text "just a text"] := by
  let handles := [("!", "!"), ("!!", "tag:yaml.org,2002:")]
  have tokens : Yaml.tokens twoDocuments = (twoTokens, .malformed) := by
    decide +kernel
  have first :
      (Yaml.Parse.document true).run ⟨twoTokens, .malformed, [], [], #[]⟩ =
      .ok (some 0,
        ⟨twoTokens.drop 11, .malformed, handles, [], firstNodes⟩) := by
    with_unfolding_all rfl
  have second : (Yaml.Parse.document false).run
        ⟨twoTokens.drop 11, .malformed, handles, [], firstNodes⟩ =
      .ok (some 0, ⟨[.streamEnd], .malformed, handles, [], secondNodes⟩) := by
    with_unfolding_all rfl
  have third : (Yaml.Parse.document false).run
        ⟨[.streamEnd], .malformed, handles, [], secondNodes⟩ =
      .ok (none, ⟨[.streamEnd], .malformed, handles, [], #[]⟩) := by
    with_unfolding_all rfl
  have mapping : Yaml.valueOf firstNodes 0 =
      .ok (.dict [(.text "name", .text "First"),
        (.text "steps", .list [])]) := by
    with_unfolding_all rfl
  have text : Yaml.valueOf secondNodes 0 = .ok (.text "just a text") := by
    with_unfolding_all rfl
  rw [Yaml.documents, tokens]
  dsimp only
  rw [Yaml.documentsFrom_next first mapping,
    Yaml.documentsFrom_next second text,
    show twoTokens.length = 13 + 1 from rfl, Yaml.documentsFrom_end third]
  rfl

private theorem readDocuments_two : Flow.readDocuments twoWorld.files twoPath =
    .ok [.dict [(.text "name", .text "First"), (.text "steps", .list [])],
      .text "just a text"] := by
  have present : twoWorld.files.exists? twoPath = .ok true :=
    eq_ok_of_toOption (by decide +kernel)
  have text : Flow.fileText twoWorld.files twoPath = .ok twoDocuments :=
    eq_ok_of_toOption (by decide +kernel)
  have json : ¬ Flow.isJsonFile twoPath := by decide +kernel
  rw [Flow.readDocuments, present, text]
  dsimp only
  rw [Flow.documentsOf, if_neg json, documents_two]
  rfl

private theorem load_two :
    Flow.load twoWorld.files twoWorld.environment twoPath =
    .ok ⟨"First", none, none, []⟩ := by
  rw [Flow.load, readDocuments_two]
  decide +kernel

private theorem loadAll_two :
    Flow.loadAll twoWorld.files twoWorld.environment twoPath =
    .error (.flow (.notMapping (Flow.documentSource twoPath 2))) := by
  have first : Flow.ofValue twoWorld.environment (Flow.documentSource twoPath 1)
      (.dict [(.text "name", .text "First"), (.text "steps", .list [])]) =
      .ok ⟨"First", none, none, []⟩ := by decide +kernel
  rw [Flow.loadAll, readDocuments_two]
  dsimp only
  rw [Flow.ofDocuments, first]
  rfl

private theorem expand_two :
    expandTargets twoWorld.files ["/two.yaml"] = .ok [twoPath] :=
  eq_ok_of_toOption (by decide +kernel)

private theorem run_two : (perform Script.plain.driver
    (.run ["/two.yaml"] ⟨none, none, none, false, false⟩) twoWorld).1 =
      .ok (.code 0) := by
  let runner : Runner := ⟨.rehearsal, .absent, .ofSettings .rehearsal⟩
  let options : RunOptions := ⟨none, none, none, false, false⟩
  have loaded : Runner.loadFlow (.located twoPath) (begun twoWorld) =
      (.ok ⟨"First", none, none, []⟩, begun twoWorld) := by
    change ((Flow.load twoWorld.files twoWorld.environment twoPath).mapError
      Fault.load, _) = _
    rw [load_two]
    rfl
  have absent : runner.recorder.Polite := trivial
  have facts :
      ((runner.runFlow Script.plain.driver options ⟨"First", none, none, []⟩
        (begun twoWorld)).1.toOption.map (·.failed)) = some 0 := by
    rw [Runner.result_of_runFlow absent]
    decide +kernel
  rcases ran : runner.runFlow Script.plain.driver options
    ⟨"First", none, none, []⟩
    (begun twoWorld) with ⟨_ | result, between⟩
  · rw [ran] at facts
    cases facts
  · rw [ran] at facts
    have none : result.failed = 0 := Option.some.inj facts
    have sourced :
        runner.runSource Script.plain.driver options (.located twoPath)
        (begun twoWorld) = (.ok result, between) := by
      rw [Runner.runSource, bind_of_ok loaded, ran]
    obtain ⟨after, done⟩ := Runner.run_of_runSource sourced
    have gathered : gather Script.plain.driver runner options [.located twoPath]
        (begun twoWorld) = (.ok ⟨[result], []⟩, after) := by
      rw [gather, bind_of_ok (settle_of_ok done)]
      rfl
    have present : missingPaths twoWorld.files [twoPath] = .ok [] :=
      eq_ok_of_toOption (by decide +kernel)
    have own : sourcesOf twoWorld.files twoWorld.environment [twoPath] =
        .ok [.located twoPath] := by
      have part : sourcesOfFile twoWorld.files twoWorld.environment twoPath =
          .ok [.located twoPath] := by
        rw [sourcesOfFile, loadAll_two]
        rfl
      rw [sourcesOf, List.mapM_cons, part]
      rfl
    have success : codeOf (BatchResult.success ⟨[result], []⟩) = 0 := by
      simp [BatchResult.success, BatchResult.totalFailed, none, codeOf]
    rw [← success]
    exact perform_run_of_gather expand_two present (by simp)
      (standardRunner_rehearsal _ _)
      own gathered

/-- A run that exits with zero does not vouch for all documents: a validation of
the same file, as it was and is, exits with one. -/
theorem validate_rejects_after_run :
    (perform Script.plain.driver
      (.run ["/two.yaml"] ⟨none, none, none, false, false⟩) twoWorld).1 =
      .ok (.code 0) ∧
    (perform Script.plain.driver (.validate ["/two.yaml"] ⟨none, true⟩)
        twoWorld).1 =
      .ok (.code 1) := by
  refine ⟨run_two, ?_⟩
  rw [perform_validate expand_two (by simp), checkFiles]
  simp only [List.map_cons, List.map_nil, checkFile, loadAll_two]
  rfl

/-- The file with two documents hides a fault, and that is what a validation
finds after the run. -/
theorem validate_after_run_two :
    (perform Script.plain.driver (.validate ["/two.yaml"] ⟨none, true⟩)
      twoWorld).1 = .ok
      (.code (if [twoPath].any
        (hidesFault twoWorld.files twoWorld.environment) then 1 else 0)) :=
  validate_after_run run_two expand_two (standardRunner_rehearsal _ _)
    (writesElsewhere_rehearsal rfl (by decide) (by decide)) rfl rfl

end PageFlow.CommandLine
