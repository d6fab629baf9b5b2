import PageFlow.Proofs.Equality
import PageFlow.Proofs.Keeping
import PageFlow.Proofs.Loading
import PageFlow.Proofs.Pacing
import PageFlow.Proofs.Verdicts

/-!
# Forms of a flow

The mapping of a flow is run as it is, or as the content of a JSON file, or as
the flow that was read of it before. The references to the environment are
replaced where the mapping is read, and a mapping is read once in each of these
forms, so that all of them have the same runs.
-/

namespace PageFlow

open Act

variable {σ : Type}

theorem Act.bind_congr_at {α β : Type} {first second : Act σ α}
    {world : World σ} (same : first world = second world) (next : α → Act σ β) :
    (first >>= next) world = (second >>= next) world := by
  change ExceptT.bindCont next (first world).1 (first world).2 =
    ExceptT.bindCont next (second world).1 (second world).2
  rw [same]

/-! ## Mappings -/

/-- The message for a mapping that is no flow names the source in its first line
only. -/
theorem FlowFault.exists_message_invalid (problems : List Problem) :
    ∃ details, ∀ source, (FlowFault.invalid source problems).message =
      "Invalid flow '" ++ source ++ "':" ++ details := by
  refine ⟨"\n".intercalate ("" :: problems.map fun problem =>
    "  - " ++ problem.placeText ++ ": " ++ problem.cause.message),
      fun source => ?_⟩
  rw [FlowFault.message, ← String.intercalate_cons_append, String.append_empty]

namespace Flow

variable {text : String} {members : List (String × Json)}

/-- The entries under `steps` of a JSON object are read as steps, or they are no
list. -/
theorem exists_readSteps_of_read (environment : Environment)
    (decoded : Json.read text = .ok (.object members)) :
    ∃ steps, readSteps (Value.find?
      (Reference.substituteInEntries environment (Json.toEntries members))
        "steps") = .ok steps := by
  rw [Reference.find?_substituteInEntries]
  cases listed : Value.find? (Json.toEntries members) "steps" with
  | none => exact ⟨_, rfl⟩
  | some value =>
      cases value with
      | list values =>
          have kept : ∀ value ∈ values,
              Step.Keepable (Reference.substituteIn environment value) :=
            keepable_of_read decoded listed
          obtain ⟨steps, each⟩ := exists_forall₂_iff.mpr fun value member =>
            Step.exists_read_iff.mpr (kept value member)
          refine ⟨.ok steps, ?_⟩
          rw [Option.map_some, Reference.substituteIn,
            Reference.substituteInAll_eq_map, readSteps_eq_ok]
          exact List.forall₂_map_left_iff.mpr each
      | _ => exact ⟨_, rfl⟩

/-- A JSON object gives the same flow from every source, or it has the same
problems there. -/
theorem ofEntries_or_of_read (environment : Environment)
    (decoded : Json.read text = .ok (.object members)) :
    let entries :=
      Reference.substituteInEntries environment (Json.toEntries members)
    (∃ flow, ∀ source, ofEntries source entries = .ok flow) ∨
      ∃ problems, ∀ source,
        ofEntries source entries = .error (.invalid source problems) := by
  intro entries
  obtain ⟨steps, listed⟩ := exists_readSteps_of_read environment decoded
  unfold ofEntries
  dsimp only
  rw [listed]
  dsimp only
  split
  · exact .inl ⟨_, fun _ => rfl⟩
  · exact .inr ⟨_, fun _ => rfl⟩

end Flow

/-! ## Sources -/

/-- A source in the form of a JSON object, and what its faults call it. The
object is given as a mapping, or it is in a JSON file that is known by its path
or by the text of its path. -/
inductive FlowSource.Form (files : FileSystem)
    (members : List (String × Json)) : FlowSource → String → Prop where
  | value :
    Form files members (.value (.dict (Json.toEntries members))) "<inline>"
  | located {path : Path} {text : String} : Flow.isJsonFile path →
      files.exists? path = .ok true →
      Flow.fileText files path = .ok text →
      Json.read text = .ok (.object members) →
      Form files members (.located path) path.text
  | file {written name : String} :
      Form files members (.located (Path.ofText written)) name →
      Form files members (.file written) name

namespace Runner

variable {driver : Driver σ} {world : World σ}
  {source first second : FlowSource} {name : String}
  {members : List (String × Json)}

/-- All forms of an object load what the object gives, under a name of their
own. -/
theorem loadFlow_of_form (form : source.Form world.files members name) :
    ∃ wrap : FlowFault → Fault,
      (∀ fault, (wrap fault).message = fault.message) ∧
      (loadFlow source world).1 = (Flow.ofValue world.environment name
        (.dict (Json.toEntries members))).mapError wrap := by
  induction form with
  | value => exact ⟨.flow, fun _ => rfl, rfl⟩
  | @located path text json there reading decoded =>
      refine ⟨fun fault => .load (.flow fault), fun _ => rfl, ?_⟩
      have read :
          Flow.readDocuments world.files path =
            .ok [.dict (Json.toEntries members)] := by
        rw [Flow.readDocuments, there]
        dsimp only
        rw [reading]
        dsimp only
        rw [Flow.documentsOf, if_pos json, decoded]
        rfl
      rw [loadFlow, Flow.load_of_readDocuments read]
      cases Flow.ofValue world.environment path.text
        (.dict (Json.toEntries members)) <;> rfl
  | file _ induction => exact induction

/-- Two sources have the same runs in a world, by themselves and in batches. -/
def SameRuns (driver : Driver σ) (world : World σ) (first second : FlowSource) :
    Prop :=
  ∀ (runner : Runner) (options : RunOptions),
    runner.run driver options first world =
        runner.run driver options second world ∧
      runner.runSource driver options first world =
        runner.runSource driver options second world

/-- A run depends on its source by the flow that is loaded from it, and on
nothing else. -/
theorem sameRuns_of_loadFlow
    (same : (loadFlow first world).1 = (loadFlow second world).1) :
    SameRuns driver world first second := by
  intro runner options
  have loading : loadFlow first world = loadFlow second world :=
    Prod.ext same rfl
  have sourced : runner.runSource driver options first world =
      runner.runSource driver options second world := bind_congr_at loading _
  exact ⟨bind_congr_at sourced _, sourced⟩

end Runner

/-! ## Batches -/

theorem Frame.environment_admitsRuns (driver : Driver σ) (recorder : Recorder)
    (directory : Path) :
    (Frame.keeping World.environment).AdmitsRuns driver recorder directory where
  toAdmitsSessions :=
    Runner.keeping_admitsSessions (fun _ _ _ _ _ _ _ _ _ _ => rfl)
      recorder directory
  print _ _ := rfl

/-- Before a turn begins, nothing happens but what the runs and the log are
allowed. -/
theorem Turn.allows_before {frame : Frame σ}
    {attempt : FlowSource → Act σ RunResult} {options : RunOptions}
    {sources : List FlowSource} {world : World σ} {turn : Turn σ}
    (admits : frame.AdmitsLogging)
    (each : ∀ source, (attempt source).Within frame)
    (among : turn ∈ all attempt options sources world) :
    frame.allows world turn.before := by
  induction sources generalizing world with
  | nil => cases among
  | cons source sources induction =>
      rcases all_cons attempt options source sources world with
        none | ⟨-, one⟩ | ⟨-, more⟩
      · rw [none] at among
        cases among
      · rw [one] at among
        rw [List.mem_singleton.mp among]
        exact frame.refl world
      · rw [more, List.mem_cons] at among
        rcases among with rfl | later
        · exact frame.refl world
        · have ran : frame.allows world (take attempt source world).after :=
            each source world
          exact frame.trans (frame.trans ran (allows_left admits _))
            (induction later)

namespace CommandLine

variable {driver : Driver σ} {runner : Runner} {options : RunOptions}
  {files : FileSystem} {environment : Environment} {paths : List Path}
  {sources : List FlowSource}

theorem sources_ne_singleton
    (sourced : sourcesOf files environment paths = .ok sources) (flow : Flow) :
    sources ≠ [.flow flow] := by
  rintro rfl
  obtain ⟨parts, found, whole⟩ := sourcesOf_eq_ok.mp sourced
  obtain ⟨part, among, member⟩ :=
    List.mem_flatten.mp (whole ▸ List.mem_singleton_self (FlowSource.flow flow))
  obtain ⟨path, -, own⟩ := exists_of_forall₂ found.flip among
  -- The part of a file has such a flow only among several ones, and no part is
  -- longer than the whole.
  have short : part.length ≤ 1 := by
    have lengths : part.length ≤ parts.flatten.length :=
      (List.sublist_flatten_of_mem among).length_le
    rwa [whole] at lengths
  unfold sourcesOfFile at own
  split at own
  · cases own
    split at member
    · rw [if_pos ‹_›, List.length_map] at short
      omega
    · simp at member
  · split at own
    · cases own
      simp at member
    · cases own

/-- A turn with a flow that was read before is a run of it, in the environment
of the command. -/
theorem eq_take_of_mem_turns {sources : List FlowSource} {world : World σ}
    {turn : Turn σ} {flow : Flow} (several : sources ≠ [.flow flow])
    (among : turn ∈ turns driver runner options sources world)
    (parsed : turn.source = .flow flow) :
    (turn.result, turn.after) = runner.runSource driver options (.flow flow)
        turn.before ∧
      turn.before.environment = world.environment := by
  have batch (sources : List FlowSource)
      (among : turn ∈ Turn.all (runner.runSource driver options) options
        sources world) :
      (turn.result, turn.after) = runner.runSource driver options (.flow flow)
          turn.before ∧
        turn.before.environment = world.environment := by
    constructor
    · obtain ⟨source, before, rfl⟩ := Turn.mem_all among
      obtain rfl : source = .flow flow := parsed
      rfl
    · have admits := Frame.environment_admitsRuns driver runner.recorder
        (options.screenshotDir.getD runner.settings.screenshotDir)
      exact Turn.allows_before admits.toAdmitsLogging
        (fun source => Runner.within_runSource source admits)
        among
  match sources with
  | [] => exact batch [] among
  | [source] =>
      -- A source by itself would be run with its report, but it is not the
      -- flow.
      rw [List.mem_singleton.mp among] at parsed
      exact absurd (congrArg (fun source => [source]) parsed) several
  | first :: second :: rest => exact batch (first :: second :: rest) among

/-- A command takes a stream of several documents as their flows, in order and
each of them read once. -/
theorem documents_of_loadAll {path : Path} {flows : List Flow}
    (loaded : Flow.loadAll files environment path = .ok flows)
    (several : 1 < flows.length) :
    sourcesOfFile files environment path = .ok (flows.map .flow) ∧
      ∃ documents, Flow.HoldsDocuments files path documents ∧
        List.Forall₂ (fun document flow =>
          ∃ entries,
            document = .dict entries ∧ Flow.Gives environment document flow)
          (Flow.present documents) flows := by
  constructor
  · rw [sourcesOfFile, loaded]
    exact congrArg Except.ok (if_pos several)
  · obtain ⟨documents, holds, each⟩ := Flow.holdsDocuments_of_loadAll loaded
    refine ⟨documents, holds, each.imp fun document flow gives => ?_⟩
    cases document with
    | dict entries => exact ⟨entries, rfl, gives⟩
    | _ => cases gives ""

/-- All forms of a flow mean the same. The mapping of a JSON object, a JSON file
that holds it, and the flow that was read of the mapping before have the same
runs from the same world; or the mapping is no flow, and then each form fails
before anything happens, with one message but for the name of the source. The
references to the environment are replaced once in each form. A command reads
the documents of a stream before it runs them, and each of its turns with such a
flow comes to what a run of the document itself comes to from there. -/
theorem forms_agree (driver : Driver σ) :
    (∀ (text : String) (members : List (String × Json)) (world : World σ),
      Json.read text = .ok (.object members) →
      let entries :=
        Reference.substituteInEntries world.environment (Json.toEntries members)
      (∃ flow, (∀ source, Flow.ofEntries source entries = .ok flow) ∧
        ∀ form name, form.Form world.files members name →
          Runner.SameRuns driver world form (.flow flow)) ∨
      ∃ problems details,
        (∀ source,
          Flow.ofEntries source entries = .error (.invalid source problems) ∧
          (FlowFault.invalid source problems).message =
            "Invalid flow '" ++ source ++ "':" ++ details) ∧
        ∀ form name, form.Form world.files members name → ∃ fault : Fault,
          fault.message = "Invalid flow '" ++ name ++ "':" ++ details ∧
          ∀ (runner : Runner) (options : RunOptions),
            runner.run driver options form world = (.error fault, world) ∧
            runner.runSource driver options form world =
              (.error fault, world)) ∧
    ∀ (targets : List String) (values : RunValues) (start : World σ)
      (runner : Runner) (ready : World σ) (sources : List FlowSource),
      Reaches targets start runner ready sources →
      ∀ (path : Path) (flows : List Flow),
        Flow.loadAll ready.files ready.environment path = .ok flows →
        1 < flows.length →
        sourcesOfFile ready.files ready.environment path =
          .ok (flows.map .flow) ∧
        ∃ documents, Flow.HoldsDocuments ready.files path documents ∧
          List.Forall₂ (fun document flow =>
            (∃ entries, document = .dict entries ∧ ∀ source,
              Flow.ofEntries source
                (Reference.substituteInEntries ready.environment entries) =
                .ok flow) ∧
            (∀ later : World σ, later.environment = ready.environment →
              Runner.SameRuns driver later (.flow flow) (.value document)) ∧
            ∀ turn ∈ turns driver runner values.options sources (begun ready),
              turn.source = .flow flow →
              (turn.result, turn.after) =
                runner.runSource driver values.options (.value document)
                turn.before)
            (Flow.present documents) flows := by
  constructor
  · intro text members world decoded entries
    rcases Flow.ofEntries_or_of_read world.environment decoded
      with ⟨flow, gives⟩ | ⟨problems, refused⟩
    · refine .inl ⟨flow, gives, fun form name there => ?_⟩
      obtain ⟨wrap, _, loading⟩ := Runner.loadFlow_of_form there
      rw [Flow.ofValue_toEntries, gives] at loading
      exact Runner.sameRuns_of_loadFlow loading
    · obtain ⟨details, told⟩ := FlowFault.exists_message_invalid problems
      refine .inr ⟨problems, details,
        fun source => ⟨refused source, told source⟩, fun form name there => ?_⟩
      obtain ⟨wrap, same, loading⟩ := Runner.loadFlow_of_form there
      rw [Flow.ofValue_toEntries, refused] at loading
      refine ⟨wrap (.invalid name problems), (same _).trans (told name),
        fun runner options => ?_⟩
      exact ⟨Runner.run_of_unloaded loading,
        bind_of_error (Runner.loadFlow_of_fst loading)⟩
  · rintro targets values start runner ready sources ⟨_, _, _, _, _, sourced⟩
      path flows loaded several
    obtain ⟨own, documents, holds, each⟩ := documents_of_loadAll loaded several
    refine ⟨own, documents, holds, each.imp ?_⟩
    rintro document flow ⟨entries, rfl, gives⟩
    have same (later : World σ) (here : later.environment = ready.environment) :
        Runner.SameRuns driver later (.flow flow) (.value (.dict entries)) := by
      refine Runner.sameRuns_of_loadFlow ?_
      rw [Runner.loadFlow, Runner.loadFlow, here, gives]
      rfl
    refine ⟨⟨entries, rfl,
      fun source => Flow.ofEntries_of_ofValue (gives source)⟩, same,
      fun turn among parsed => ?_⟩
    obtain ⟨ran, here⟩ :=
      eq_take_of_mem_turns (sources_ne_singleton sourced flow) among parsed
    rw [ran]
    exact (same turn.before here runner values.options).2

private def nestedJson : String :=
  "\x7b\"name\": \"$\x7bA\x7d\", \"steps\": []\x7d"

private def nestedYaml : String :=
  "name: One\nsteps: []\n---\nname: $\x7bA\x7d\nsteps: []\n"

private def nestedTokens : List Yaml.Token :=
  [.blockMappingStart, .key, .scalar "name" true, .value, .scalar "One" true,
    .key, .scalar "steps" true, .value, .flowSequenceStart, .flowSequenceEnd,
    .blockEnd, .documentStart, .blockMappingStart, .key, .scalar "name" true,
    .value, .scalar "$\x7bA\x7d" true, .key, .scalar "steps" true, .value,
    .flowSequenceStart, .flowSequenceEnd, .blockEnd, .streamEnd]

private def nestedFiles : FileSystem :=
  ⟨[(["f.json"],
      .file [123, 34, 110, 97, 109, 101, 34, 58, 32, 34, 36, 123, 65, 125, 34,
        44, 32, 34, 115, 116, 101, 112, 115, 34, 58, 32, 91, 93, 125]),
      (["two.yaml"],
      .file [110, 97, 109, 101, 58, 32, 79, 110, 101, 10, 115, 116, 101, 112,
        115, 58, 32, 91, 93, 10, 45, 45, 45, 10, 110, 97, 109, 101, 58, 32, 36,
        123, 65, 125, 10, 115, 116, 101, 112, 115, 58, 32, 91, 93, 10])], []⟩

private def nestedMembers : List (String × Json) :=
  [("name", .text "$\x7bA\x7d"), ("steps", .array [])]

private def nestedWorld : World (List (ScriptedFailure × Nat)) :=
  { World.rehearsal .plain nestedFiles with
    environment := ⟨[("A", "$\x7bB\x7d"), ("B", "x")]⟩ }

private def oneNodes : Array Yaml.Node :=
  #[.mapping .mapping [(1, 2), (3, 4)], .scalar .text "name",
    .scalar .text "One", .scalar .text "steps", .sequence .sequence []]

private def nestedNodes : Array Yaml.Node :=
  #[.mapping .mapping [(1, 2), (3, 4)], .scalar .text "name",
    .scalar .text "$\x7bA\x7d", .scalar .text "steps", .sequence .sequence []]

private theorem documents_nested : Yaml.documents nestedYaml =
    .ok [.dict [(.text "name", .text "One"), (.text "steps", .list [])],
      .dict (Json.toEntries nestedMembers)] := by
  let handles := [("!", "!"), ("!!", "tag:yaml.org,2002:")]
  have tokens : Yaml.tokens nestedYaml = (nestedTokens, .malformed) := by
    decide +kernel
  have first :
      (Yaml.Parse.document true).run ⟨nestedTokens, .malformed, [], [], #[]⟩ =
      .ok (some 0,
        ⟨nestedTokens.drop 11, .malformed, handles, [], oneNodes⟩) := by
    with_unfolding_all rfl
  have second : (Yaml.Parse.document false).run
        ⟨nestedTokens.drop 11, .malformed, handles, [], oneNodes⟩ =
      .ok (some 0, ⟨[.streamEnd], .malformed, handles, [], nestedNodes⟩) := by
    with_unfolding_all rfl
  have third : (Yaml.Parse.document false).run
        ⟨[.streamEnd], .malformed, handles, [], nestedNodes⟩ =
      .ok (none, ⟨[.streamEnd], .malformed, handles, [], #[]⟩) := by
    with_unfolding_all rfl
  have one : Yaml.valueOf oneNodes 0 =
      .ok (.dict [(.text "name", .text "One"), (.text "steps", .list [])]) := by
    with_unfolding_all rfl
  have other :
      Yaml.valueOf nestedNodes 0 =
        .ok (.dict (Json.toEntries nestedMembers)) := by
    with_unfolding_all rfl
  rw [Yaml.documents, tokens]
  dsimp only
  rw [Yaml.documentsFrom_next first one, Yaml.documentsFrom_next second other,
    show nestedTokens.length = 23 + 1 from rfl, Yaml.documentsFrom_end third]
  rfl

private theorem gives_nested : Flow.ofEntries ""
    (Reference.substituteInEntries nestedWorld.environment
        (Json.toEntries nestedMembers)) =
      .ok ⟨"$\x7bB\x7d", none, none, []⟩ := by
  decide +kernel

private theorem loadAll_nested :
    Flow.loadAll nestedFiles nestedWorld.environment ⟨.root, ["two.yaml"]⟩ =
    .ok [⟨"One", none, none, []⟩, ⟨"$\x7bB\x7d", none, none, []⟩] := by
  have present : nestedFiles.exists? ⟨.root, ["two.yaml"]⟩ = .ok true :=
    eq_ok_of_toOption (by decide +kernel)
  have text :
      Flow.fileText nestedFiles ⟨.root, ["two.yaml"]⟩ = .ok nestedYaml :=
    eq_ok_of_toOption (by decide +kernel)
  have yaml : ¬ Flow.isJsonFile ⟨.root, ["two.yaml"]⟩ := by decide +kernel
  have read : Flow.readDocuments nestedFiles ⟨.root, ["two.yaml"]⟩ =
      .ok [.dict [(.text "name", .text "One"), (.text "steps", .list [])],
        .dict (Json.toEntries nestedMembers)] := by
    rw [Flow.readDocuments, present, text]
    dsimp only
    rw [Flow.documentsOf, if_neg yaml, documents_nested]
    rfl
  have first :
      Flow.ofValue nestedWorld.environment
        (Flow.documentSource ⟨.root, ["two.yaml"]⟩ 1)
      (.dict [(.text "name", .text "One"), (.text "steps", .list [])]) =
      .ok ⟨"One", none, none, []⟩ := by decide +kernel
  have second : Flow.ofValue nestedWorld.environment
      (Flow.documentSource ⟨.root, ["two.yaml"]⟩ 2)
      (.dict (Json.toEntries nestedMembers)) =
        .ok ⟨"$\x7bB\x7d", none, none, []⟩ := by
    decide +kernel
  rw [Flow.loadAll_of_readDocuments read, Flow.ofDocuments, first,
    Flow.ofDocuments, second]
  rfl

private theorem reaches_nested : Reaches ["/two.yaml"] nestedWorld
    ⟨.rehearsal, .absent, .ofSettings .rehearsal⟩ nestedWorld
    [.flow ⟨"One", none, none, []⟩, .flow ⟨"$\x7bB\x7d", none, none, []⟩] := by
  have expanded : expandTargets nestedWorld.files ["/two.yaml"] =
      .ok [⟨.root, ["two.yaml"]⟩] :=
    eq_ok_of_toOption (by decide +kernel)
  have present :
      missingPaths nestedWorld.files [⟨.root, ["two.yaml"]⟩] = .ok [] :=
    eq_ok_of_toOption (by decide +kernel)
  have part :
      sourcesOfFile nestedFiles nestedWorld.environment ⟨.root, ["two.yaml"]⟩ =
      .ok [.flow ⟨"One", none, none, []⟩,
        .flow ⟨"$\x7bB\x7d", none, none, []⟩] := by
    rw [sourcesOfFile, loadAll_nested]
    rfl
  exact ⟨_, expanded, present, by simp, rfl,
    sourcesOf_eq_ok.mpr ⟨_, .cons part .nil, rfl⟩⟩

/-- The text of a reference is not looked at again, in no form. -/
theorem forms_agree_nested :
    let flow : Flow := ⟨"$\x7bB\x7d", none, none, []⟩
    let document : Value := .dict (Json.toEntries nestedMembers)
    Runner.SameRuns Script.plain.driver nestedWorld (.file "/f.json")
      (.flow flow) ∧
      Runner.SameRuns Script.plain.driver nestedWorld (.value document)
        (.flow flow) ∧
      ∀ later, later.environment = nestedWorld.environment →
        Runner.SameRuns Script.plain.driver later (.flow flow)
          (.value document) := by
  intro flow document
  have decoded : Json.read nestedJson = .ok (.object nestedMembers) := by
    decide +kernel
  have located :
      (FlowSource.located (Path.ofText "/f.json")).Form nestedFiles
        nestedMembers
      (Path.ofText "/f.json").text :=
    .located (by decide +kernel) (eq_ok_of_toOption (by decide +kernel))
      (eq_ok_of_toOption (by decide +kernel)) decoded
  obtain ⟨forms, streams⟩ := forms_agree Script.plain.driver
  have same : ∀ form name, form.Form nestedFiles nestedMembers name →
      Runner.SameRuns Script.plain.driver nestedWorld form (.flow flow) := by
    rcases forms nestedJson nestedMembers nestedWorld decoded
      with ⟨other, gives, same⟩ | ⟨_, _, refused, _⟩
    · obtain rfl : other = flow :=
        Except.ok.inj ((gives "").symm.trans gives_nested)
      exact same
    · cases gives_nested.symm.trans (refused "").1
  refine ⟨same _ _ (.file located), same _ _ .value, fun later here => ?_⟩
  obtain ⟨_, documents, ⟨_, text, reading, writes⟩, each⟩ :=
    streams ["/two.yaml"]
      ⟨none, none, none, false, false⟩ _ _ _ _ reaches_nested _ _
      loadAll_nested (by decide)
  have stream :
      Flow.fileText nestedFiles ⟨.root, ["two.yaml"]⟩ = .ok nestedYaml :=
    eq_ok_of_toOption (by decide +kernel)
  obtain rfl : nestedYaml = text := Except.ok.inj (stream.symm.trans reading)
  cases writes with
  | json json => exact absurd json (by decide +kernel)
  | yaml _ parsed =>
      obtain rfl := Except.ok.inj (documents_nested.symm.trans parsed)
      cases each with
      | cons _ rest =>
          cases rest with
          | cons second _ => exact second.2.1 later here

end CommandLine

end PageFlow
