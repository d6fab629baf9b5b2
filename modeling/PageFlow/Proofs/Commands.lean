import PageFlow.Proofs.Batch
import PageFlow.Proofs.FlowFiles

/-!
# Commands on flow files

Running and validating targets share their flow files. What each of the two
commands does is said here once: a validation checks the files, and a run makes
a runner and gathers a batch from their sources.
-/

namespace PageFlow

open Act FileSystem

variable {σ : Type}

namespace CommandLine

variable {driver : Driver σ} {files : FileSystem} {environment : Environment}
  {paths : List Path}

/-! ## Sources -/

theorem sourcesOf_eq_ok {sources : List FlowSource} :
    sourcesOf files environment paths = .ok sources ↔
      ∃ parts,
        List.Forall₂ (fun path part =>
          sourcesOfFile files environment path = .ok part)
        paths parts ∧ parts.flatten = sources := by
  rw [sourcesOf]
  constructor
  · intro found
    obtain ⟨parts, each, flat⟩ := exists_of_map_eq_ok found
    exact ⟨parts, mapM_eq_ok.mp each, flat⟩
  · rintro ⟨parts, each, rfl⟩
    rw [mapM_eq_ok.mpr each]
    rfl

theorem key_of_sourcesOf {sources : List FlowSource} {source : FlowSource}
    (sourced : sourcesOf files environment paths = .ok sources)
    (among : source ∈ sources) : source.key = .ok source.text := by
  obtain ⟨parts, found, rfl⟩ := sourcesOf_eq_ok.mp sourced
  obtain ⟨part, inside, member⟩ := List.mem_flatten.mp among
  obtain ⟨path, -, own⟩ := exists_of_forall₂ found.flip inside
  have located : source = .located path → source.key = .ok source.text := by
    rintro rfl
    rfl
  unfold sourcesOfFile at own
  split at own
  · cases own
    split at member
    · obtain ⟨flow, -, rfl⟩ := List.mem_map.mp member
      rfl
    · exact located (List.mem_singleton.mp member)
  · split at own
    · cases own
      exact located (List.mem_singleton.mp member)
    · cases own

theorem missingPaths_eq_nil :
    missingPaths files paths = .ok [] ↔ ∀ path ∈ paths,
      files.exists? path = .ok true := by
  induction paths with
  | nil => simp [missingPaths]
  | cons path paths induction =>
      rw [missingPaths, List.forall_mem_cons, ← induction]
      cases files.exists? path with
      | error fault =>
          constructor
          · intro missing
            cases missing
          · rintro ⟨present, _⟩
            cases present
      | ok found =>
          cases missingPaths files paths with
          | error fault =>
              constructor
              · intro missing
                cases missing
              · rintro ⟨_, missing⟩
                cases missing
          | ok missing =>
              cases found <;>
                simp [Bind.bind, Except.bind, Pure.pure, Except.pure]

/-! ## Validating -/

/-- What lines look like on the console. -/
def printedLines (lines : List String) : String :=
  String.join (lines.map fun line => Text.withoutCodes line ++ "\n")

theorem forM_echo (lines : List String) (world : World σ) :
    lines.forM echo world =
      (.ok (),
        { world with output := world.output ++ printedLines lines }) := by
  induction lines generalizing world with
  | nil => simp [printedLines, List.forM]
  | cons line lines induction =>
      have first : echo line world =
          (.ok (),
            { world with output :=
              world.output ++ (Text.withoutCodes line ++ "\n") }) :=
        rfl
      change (echo line >>= fun _ => lines.forM echo) world = _
      rw [bind_of_ok first, induction]
      simp [printedLines, String.append_assoc]

/-- A validation of targets prints what it finds in their files, and changes
nothing else. -/
theorem perform_validate {targets : List String} {values : ValidateValues}
    {world : World σ} (expanded : expandTargets world.files targets = .ok paths)
    (named : targets ≠ []) :
    perform driver (.validate targets values) world =
      (.ok (.code (codeOf (checkFiles world.files world.environment paths).2)),
        { world with
          output := world.output ++ printedLines
            (checkFiles world.files world.environment paths).1 }) := by
  have unnamed : ¬ targets.isEmpty := by simpa using named
  rcases checked : checkFiles world.files world.environment paths
    with ⟨lines, sound⟩
  have validated : validate targets values world =
      (.ok (codeOf sound),
        { world with output := world.output ++ printedLines lines }) := by
    rw [validate, ask_bind, if_neg unnamed, expanded,
      bind_of_ok (orFail_ok _ _ _), validateFiles, ask_bind, checked]
    dsimp only
    rw [bind_of_ok (forM_echo lines world)]
    rfl
  rw [perform, map_eq_pure_bind, bind_of_ok validated]
  rfl

/-! ## Preparing -/

theorem extends_of_standardRunner {world ready : World σ} {runner : Runner}
    (made : standardRunner world = (.ok runner, ready)) (kept : Place → Prop) :
    Extends kept world.files ready.files ∧ ready.environment =
      world.environment := by
  let growing : Frame σ :=
    { allows := fun before after =>
        Extends kept before.files after.files ∧ after.environment =
          before.environment
      refl := fun world => ⟨.refl _, rfl⟩
      trans := fun earlier later =>
        ⟨earlier.1.trans later.1, later.2.trans earlier.2⟩ }
  have choosing : (settings : Act σ Settings).Within growing := by
    intro world
    unfold settings
    split
    · exact growing.refl world
    · split <;> exact ⟨.refl _, rfl⟩
  have making (path : Path) : (Act.ensureDirectory path).Within growing := by
    intro world
    have extended :
        Extends kept world.files (world.files.ensureDirectory path).1 :=
      extends_ensureDirectory world.files path
    unfold Act.ensureDirectory
    split <;> rename_i making <;> rw [making] at extended <;>
      exact ⟨extended, rfl⟩
  have logging : (setUpLog : Act σ Unit).Within growing := by
    refine within_bind (within_ask _) fun log => ?_
    split
    · refine within_bind choosing fun chosen => ?_
      split
      · exact within_bind (making _) fun _ world => ⟨.refl _, rfl⟩
      · exact fun world => ⟨.refl _, rfl⟩
    · exact within_pure _
  have whole : (standardRunner : Act σ Runner).Within growing :=
    within_bind choosing fun _ => within_bind logging fun _ => within_pure _
  exact whole.allows made

theorem recorder_of_standardRunner {world ready : World σ} {runner : Runner}
    (made : standardRunner world = (.ok runner, ready)) :
    ∀ refuses, runner.recorder ≠ .custom refuses := by
  obtain ⟨chosen, between, _, rest⟩ := bind_eq_ok.mp made
  obtain ⟨_, last, _, done⟩ := bind_eq_ok.mp rest
  cases done
  intro refuses
  dsimp only
  split <;> exact Recorder.noConfusion

theorem standardRunner_of_blocked {world : World σ} {chosen : Settings}
    {fault : FileFault} (known : world.settings = some chosen)
    (fresh : world.log.threshold = none) (kept : chosen.logToFile = true)
    (blocked : (world.files.ensureDirectory chosen.logFile.parent).2 =
      .error fault) :
    ∃ after, standardRunner world = (.error (.file fault), after) := by
  have chose : (settings : Act σ Settings) world = (.ok chosen, world) := by
    unfold settings
    rw [known]
  have unmade : ∃ after, Act.ensureDirectory chosen.logFile.parent world =
      (.error (.file fault), after) := by
    unfold Act.ensureDirectory
    rcases making : world.files.ensureDirectory chosen.logFile.parent
      with ⟨files, raised | done⟩ <;>
      rw [making] at blocked <;> cases blocked
    exact ⟨_, rfl⟩
  obtain ⟨after, unmade⟩ := unmade
  have unset : setUpLog world = (.error (.file fault), after) := by
    rw [setUpLog, ask_bind, if_pos (by simp [fresh]), bind_of_ok chose,
      if_pos kept, bind_of_error unmade]
  refine ⟨after, ?_⟩
  rw [standardRunner, Runner.make, bind_of_ok chose]
  exact bind_of_error unset

/-! ## Running -/

/-- A world whose log knows that a command has begun. -/
def begun (world : World σ) : World σ :=
  { world with
    log := world.log.bind
      [("run_id",
        .text (Calendar.compactText (Calendar.ofMoment world.moment)))] }

theorem withRunId_apply (act : Act σ α) (world : World σ) :
    withRunId act world =
      ensuring act (change fun world =>
          { world with log := world.log.unbind ["run_id"] })
        (begun world) :=
  rfl

theorem withRunId_of_ok {act : Act σ α} {world after : World σ} {value : α}
    (done : act (begun world) = (.ok value, after)) :
    ∃ finish, withRunId act world = (.ok value, finish) := by
  rw [withRunId_apply, ensuring, done]
  exact ⟨_, rfl⟩

/-- A run of targets that exits with zero has gathered a successful batch from
their files. -/
theorem gather_of_perform_run {targets : List String} {values : RunValues}
    {world : World σ}
    (success : (perform driver (.run targets values) world).1 = .ok (.code 0)) :
    ∃ paths runner ready sources batch after,
      expandTargets world.files targets = .ok paths ∧
      missingPaths world.files paths = .ok [] ∧
      paths ≠ [] ∧ standardRunner world = (.ok runner, ready) ∧
      sourcesOf ready.files ready.environment paths = .ok sources ∧
      gather driver runner values.options sources (begun ready) =
        (.ok batch, after) ∧
      batch.success = true := by
  rcases ran : runTargets driver targets values.options world
    with ⟨fault | code, finish⟩
  · rw [perform, map_eq_pure_bind, bind_of_error ran] at success
    cases success
  · rw [perform, map_eq_pure_bind, bind_of_ok ran] at success
    cases success
    rw [runTargets, ask_bind] at ran
    obtain ⟨paths, _, expanding, checking⟩ := bind_eq_ok.mp ran
    obtain ⟨expanded, rfl⟩ := orFail_eq_ok expanding
    obtain ⟨missing, _, looking, going⟩ := bind_eq_ok.mp checking
    obtain ⟨looked, rfl⟩ := orFail_eq_ok looking
    cases missing with
    | cons path missing =>
        obtain ⟨_, _, _, ended⟩ := bind_eq_ok.mp going
        cases ended
    | nil =>
        cases paths with
        | nil =>
            obtain ⟨_, _, _, ended⟩ := bind_eq_ok.mp going
            cases ended
        | cons path paths =>
            obtain ⟨runner, ready, made, prepared⟩ := bind_eq_ok.mp going
            rw [ask_bind] at prepared
            obtain ⟨sources, _, sourcing, batching⟩ := bind_eq_ok.mp prepared
            obtain ⟨sourced, rfl⟩ := orFail_eq_ok sourcing
            obtain ⟨passed, _, running, ended⟩ := bind_eq_ok.mp batching
            rw [withRunId_apply] at running
            obtain ⟨between, running, _⟩ := ensuring_eq_ok running
            rw [runSources_eq_gather, map_eq_pure_bind] at running
            obtain ⟨batch, _, gathered, judged⟩ := bind_eq_ok.mp running
            cases judged
            refine ⟨path :: paths, runner, _, sources, batch, _, expanded,
              looked, by simp, made, sourced, gathered, ?_⟩
            cases good : batch.success with
            | true => rfl
            | false =>
                rw [good] at ended
                cases ended

/-- Targets that lead to files, none of them missing, are run as these files. -/
theorem runTargets_of_present {targets : List String} {options : RunOptions}
    {world : World σ} (expanded : expandTargets world.files targets = .ok paths)
    (present : missingPaths world.files paths = .ok []) (some : paths ≠ []) :
    runTargets driver targets options world =
      runFiles driver paths options world := by
  rw [runTargets, ask_bind, expanded, bind_of_ok (orFail_ok _ _ _), present,
    bind_of_ok (orFail_ok _ _ _)]
  cases paths with
  | nil => exact (some rfl).elim
  | cons path paths => rfl

/-- A run of targets says whether the batch that it gathers is a success. -/
theorem perform_run_of_gather {targets : List String} {values : RunValues}
    {runner : Runner} {sources : List FlowSource} {batch : BatchResult}
    {world ready after : World σ}
    (expanded : expandTargets world.files targets = .ok paths)
    (present : missingPaths world.files paths = .ok []) (some : paths ≠ [])
    (made : standardRunner world = (.ok runner, ready))
    (sourced : sourcesOf ready.files ready.environment paths = .ok sources)
    (gathered : gather driver runner values.options sources (begun ready) =
      (.ok batch, after)) :
    (perform driver (.run targets values) world).1 =
      .ok (.code (codeOf batch.success)) := by
  have running : runSources driver runner values.options sources (begun ready) =
      (.ok batch.success, after) := by
    rw [runSources_eq_gather, map_eq_pure_bind, bind_of_ok gathered]
    rfl
  obtain ⟨finish, ran⟩ := withRunId_of_ok running
  have done : runTargets driver targets values.options world =
      (.ok (codeOf batch.success), finish) := by
    rw [runTargets_of_present expanded present some, runFiles, bind_of_ok made,
      ask_bind, sourced, bind_of_ok (orFail_ok _ _ _), bind_of_ok ran]
    rfl
  rw [perform, map_eq_pure_bind, bind_of_ok done]
  rfl

theorem perform_run_of_fault {targets : List String} {values : RunValues}
    {fault : Fault} {world ready : World σ}
    (expanded : expandTargets world.files targets = .ok paths)
    (present : missingPaths world.files paths = .ok []) (some : paths ≠ [])
    (unmade : standardRunner world = (.error fault, ready)) :
    (perform driver (.run targets values) world).1 = .error fault := by
  have done : runTargets driver targets values.options world =
      (.error fault, ready) := by
    rw [runTargets_of_present expanded present some, runFiles,
      bind_of_error unmade]
  rw [perform, map_eq_pure_bind, bind_of_error done]

end CommandLine

end PageFlow
