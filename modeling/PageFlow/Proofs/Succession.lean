import Mathlib.Data.List.Chain
import PageFlow.Proofs.Namesakes

/-!
# Batches as successions of runs

A batch is nothing but its runs, one after another: each of them begins in the
world that the one before has left. The results stand in the order of the
sources, and the errors under the names of theirs. Between two runs there is at
most the line in which the log is told of an error, and that line matters only
where the log is kept in a file that one of the next runs looks at.
-/

namespace PageFlow

open Act

variable {σ : Type} {driver : Driver σ} {runner : Runner} {options : RunOptions}

/-! ## Turns in succession -/

namespace Turn

/-- Sources take turns from a world on. Each turn begins in the world that the
one before has left, and only the last source or a turn that is to be the last
has none behind it. -/
structure Succeed (attempt : FlowSource → Act σ RunResult)
    (options : RunOptions) (sources : List FlowSource) (world : World σ)
    (turns : List (Turn σ)) : Prop where
  order : turns.map (·.source) <+: sources
  runs : ∀ turn ∈ turns,
    attempt turn.source turn.before = (turn.result, turn.after)
  first : ∀ turn ∈ turns.head?, turn.before = world
  next : turns.IsChain fun turn next => next.before = turn.left
  goesOn : ∀ turn ∈ turns.dropLast, turn.isLast options = false
  ends : turns.map (·.source) = sources ∨
    ∃ turn ∈ turns.getLast?, turn.isLast options = true

namespace Succeed

variable {attempt : FlowSource → Act σ RunResult} {source : FlowSource}
  {sources : List FlowSource} {world : World σ}

theorem nil : Succeed attempt options [] world [] where
  order := List.nil_prefix
  runs := List.forall_mem_nil _
  first := by
    rintro turn ⟨⟩
  next := List.isChain_nil
  goesOn := List.forall_mem_nil _
  ends := .inl rfl

theorem last (isLast : (take attempt source world).isLast options = true) :
    Succeed attempt options (source :: sources) world
      [take attempt source world] where
  order := ⟨sources, rfl⟩
  runs := List.forall_mem_singleton.mpr rfl
  first := by
    rintro turn ⟨⟩
    rfl
  next := List.isChain_singleton _
  goesOn := List.forall_mem_nil _
  ends := .inr ⟨_, rfl, isLast⟩

theorem cons {turns : List (Turn σ)}
    (goesOn : (take attempt source world).isLast options = false)
    (later : Succeed attempt options sources (take attempt source world).left
      turns) :
    Succeed attempt options (source :: sources) world
      (take attempt source world :: turns) where
  order := (List.prefix_cons_inj source).mpr later.order
  runs := List.forall_mem_cons.mpr ⟨rfl, later.runs⟩
  first := by
    rintro turn ⟨⟩
    rfl
  next := List.isChain_cons.mpr ⟨later.first, later.next⟩
  goesOn := by
    cases turns with
    | nil => exact List.forall_mem_nil _
    | cons next rest => exact List.forall_mem_cons.mpr ⟨goesOn, later.goesOn⟩
  ends := by
    rcases later.ends with all | ⟨turn, found, isLast⟩
    · exact .inl (congrArg (source :: ·) all)
    · refine .inr ⟨turn, ?_, isLast⟩
      rw [List.getLast?_cons, found]
      rfl

end Succeed

theorem succeed_all {attempt : FlowSource → Act σ RunResult}
    {sources : List FlowSource}
    (named : ∀ source ∈ sources, source.key = .ok source.text)
    (world : World σ) :
    Succeed attempt options sources world
      (all attempt options sources world) := by
  induction sources generalizing world with
  | nil => exact .nil
  | cons source sources induction =>
      obtain ⟨first, others⟩ := List.forall_mem_cons.mp named
      cases last : (take attempt source world).isLast options with
      | true =>
          rw [(all_of_isLast first last sources).1]
          exact .last last
      | false =>
          rw [(all_of_goesOn first last sources).1]
          exact .cons last (induction others _)

/-- Where the log is kept in no file, a turn leaves what its run has left, but
for what the log holds. -/
theorem left_of_unfiled {turn : Turn σ} (unfiled : turn.after.log.file = none) :
    turn.left = { turn.after with log := turn.left.log } := by
  have told (message : String) (world : World σ)
      (unfiled : world.log.file = none) :
      (log Runner.runLog .error message world).2 =
        { world with
          log := (log Runner.runLog .error message world).2.log } := by
    rw [log, change]
    split
    · simp only [withLine, unfiled]
    · rfl
  unfold left
  split
  · rfl
  · split
    · rfl
    · exact told _ _ unfiled

theorem all_singleton {attempt : FlowSource → Act σ RunResult}
    {source : FlowSource} (named : source.key = .ok source.text)
    (world : World σ) :
    all attempt options [source] world = [take attempt source world] := by
  cases last : (take attempt source world).isLast options with
  | true => exact (all_of_isLast named last []).1
  | false => exact (all_of_goesOn named last []).1

theorem comeTo_singleton (turn : Turn σ) :
    comeTo turn.stop? [turn] .empty =
      match turn.result with
      | .ok result => .ok ⟨[result], []⟩
      | .error fault =>
        if fault.exits then .error fault
        else .ok ⟨[], [(turn.source.text, fault.message)]⟩ := by
  rcases turn with ⟨source, before, fault | result, after⟩
  · cases exits : fault.exits <;>
      simp [comeTo, stop?, addTo, exits, BatchResult.addError,
        BatchResult.addError.put, BatchResult.empty]
  · rfl

end Turn

/-! ## Batches -/

namespace Runner

/-- What turns of sources with names come to. A request to stop is the end of
the batch. Otherwise it has the results in order, and of each name the last
error, where the names stand in the order in which they have failed first. -/
theorem runAll_of_turns {sources : List FlowSource}
    (named : ∀ source ∈ sources, source.key = .ok source.text)
    (world : World σ) :
    let turns := Turn.all (runner.run driver options) options sources world
    let failures := turns.filterMap Turn.failure?
    let batch := runner.runAll driver options sources world
    (∃ output, batch.2 = { Turn.behind world turns with output := output }) ∧
      (∀ fault, turns.findSome? Turn.stop? = some fault →
        batch.1 = .error fault) ∧
      (turns.findSome? Turn.stop? = none → ∃ errors,
        batch.1 = .ok ⟨turns.filterMap Turn.result?, errors⟩ ∧
          errors.map Prod.fst = (failures.map Prod.fst).eraseDups ∧
          ∀ name, errors.lookup name = failures.reverse.lookup name) := by
  intro turns failures batch
  obtain ⟨output, ran⟩ := runAll_eq_turns runner driver options sources world
  rw [Turn.halt?_of_named named] at ran
  have ended : batch = _ := ran
  refine ⟨⟨output, congrArg Prod.snd ended⟩, fun fault stops => ?_,
    fun unstopped => ?_⟩
  · rw [ended, stops]
    rfl
  · refine ⟨BatchResult.tell [] failures, ?_, BatchResult.names_tell failures,
      fun name => ?_⟩
    · rw [ended, unstopped]
      exact congrArg Except.ok (Turn.foldl_addTo turns .empty)
    · rw [BatchResult.lookup_tell, List.lookup_nil, Option.or_none]

/-- A batch that comes to a source without a name ends with its fault, and the
results before it are lost. -/
theorem runAll_of_unnamed {front rest : List FlowSource} {source : FlowSource}
    {fault : Value.JsonFault}
    (named : ∀ source ∈ front, source.key = .ok source.text)
    (unnamed : source.key = .error fault) (world : World σ)
    (goesOn : ∀ turn ∈ Turn.all (runner.run driver options) options front world,
      turn.isLast options = false) :
    (runner.runAll driver options (front ++ source :: rest) world).1 =
      .error (.reason fault) := by
  have halts : Turn.halt? (runner.run driver options) options
      (front ++ source :: rest) world = some (.reason fault) := by
    induction front generalizing world with
    | nil => exact (Turn.all_of_unnamed unnamed rest).2
    | cons first front induction =>
        obtain ⟨here, others⟩ := List.forall_mem_cons.mp named
        have open_ : (Turn.take (runner.run driver options) first world).isLast
            options = false := by
          refine goesOn _ ?_
          rw [Turn.all, here]
          exact List.mem_cons_self
        rw [(Turn.all_of_goesOn here open_ front).1] at goesOn
        rw [List.cons_append, (Turn.all_of_goesOn here open_ _).2]
        exact induction others _ (List.forall_mem_cons.mp goesOn).2
  obtain ⟨output, ran⟩ :=
    runAll_eq_turns runner driver options (front ++ source :: rest) world
  rw [ran, halts]
  rfl

theorem runAll_singleton {source : FlowSource}
    (named : source.key = .ok source.text) (world : World σ) :
    let batch := runner.runAll driver options [source] world
    let alone := runner.run driver options source world
    batch.1 = (match alone.1 with
      | .ok result => .ok ⟨[result], []⟩
      | .error fault =>
        if fault.exits then .error fault
        else .ok ⟨[], [(source.text, fault.message)]⟩) ∧
      alone.2.Calm batch.2 := by
  intro batch alone
  obtain ⟨output, ran⟩ := runAll_eq_turns runner driver options [source] world
  rw [Turn.halt?_of_named (List.forall_mem_singleton.mpr named),
    Turn.all_singleton named, List.findSome?_singleton] at ran
  rw [Turn.comeTo_singleton] at ran
  have ended : batch = _ := ran
  rw [ended]
  exact ⟨rfl,
    Turn.calm_left (Turn.take (runner.run driver options) source world)⟩

/-- A batch of sources with names is the succession of their runs, up to a run
with a failed step where such a run is to stop the batch; no error does. It
leaves the world of the last turn, but for its report on the console. A request
to stop ends it. Otherwise it has the results of the turns in order, and under
the name of each source that has failed the message of its last failure. Between
two turns there is nothing but a line of the log. A batch of one source comes to
what the source comes to. -/
theorem runAll_takes_turns (runner : Runner) (driver : Driver σ)
    (options : RunOptions) {sources : List FlowSource}
    (named : ∀ source ∈ sources, source.key = .ok source.text)
    (world : World σ) :
    let turns := Turn.all (runner.run driver options) options sources world
    let failures := turns.filterMap Turn.failure?
    let batch := runner.runAll driver options sources world
    Turn.Succeed (runner.run driver options) options sources world turns ∧
      (∀ turn ∈ turns, turn.after.Calm turn.left ∧
        (turn.after.log.file = none →
          turn.left = { turn.after with log := turn.left.log })) ∧
      (∃ output, batch.2 = { Turn.behind world turns with output := output }) ∧
      (∀ fault, turns.findSome? Turn.stop? = some fault →
        batch.1 = .error fault) ∧
      (turns.findSome? Turn.stop? = none → ∃ errors,
        batch.1 = .ok ⟨turns.filterMap Turn.result?, errors⟩ ∧
          errors.map Prod.fst = (failures.map Prod.fst).eraseDups ∧
          ∀ name, errors.lookup name = failures.reverse.lookup name) ∧
      ∀ source ∈ sources,
        let batch := runner.runAll driver options [source] world
        let alone := runner.run driver options source world
        batch.1 = (match alone.1 with
          | .ok result => .ok ⟨[result], []⟩
          | .error fault =>
            if fault.exits then .error fault
            else .ok ⟨[], [(source.text, fault.message)]⟩) ∧
          batch.2.events = alone.2.events ∧
          batch.2.received = alone.2.received := by
  intro turns failures batch
  obtain ⟨left, stopped, ended⟩ :=
    runAll_of_turns named world
  refine ⟨Turn.succeed_all named world,
    fun turn _ => ⟨turn.calm_left, Turn.left_of_unfiled⟩, left, stopped, ended,
    ?_⟩
  intro source among batch alone
  obtain ⟨same, calm⟩ := runAll_singleton (named source among) world
  exact ⟨same, congrArg (·.1.2) calm, calm.received⟩

/-- Failures stop the batch, and no report is printed but its document. -/
private def strict : RunOptions :=
  { RunOptions.none with stopOnFailure := true, json := true }

/-- A missing file is told of, the flow behind it fails, and the last one is not
run any more. -/
theorem runAll_takes_turns_strict :
    let runner : Runner := ⟨.rehearsal, .absent, .off⟩
    let aimless : Flow :=
      ⟨"Aimless", none, none, [.ofReason "Nothing to do" []]⟩
    let sources := [.file "missing", .flow aimless, .flow aimless]
    let world := World.rehearsal .plain ⟨[], []⟩
    ∃ results errors,
      (runner.runAll Script.plain.driver strict sources world).1 =
        .ok ⟨results, errors⟩ ∧
      results.map (·.name) = ["Aimless"] ∧
      errors.map Prod.fst = ["missing"] ∧
      errors.lookup "missing" = some "Test flow file not found: missing" := by
  intro runner aimless sources world
  have named : ∀ source ∈ sources, source.key = .ok source.text := by
    simp [sources, FlowSource.key]
  let turns := Turn.all (runner.run Script.plain.driver strict) strict sources
    world
  have facts : (turns.filterMap Turn.result?).map (·.name) = ["Aimless"] ∧
      turns.filterMap Turn.failure? =
        [("missing", "Test flow file not found: missing")] ∧
      (turns.findSome? Turn.stop?).isNone := by
    decide +kernel
  obtain ⟨names, failures, unstopped⟩ := facts
  obtain ⟨-, -, -, -, ended, -⟩ :=
    runAll_takes_turns runner Script.plain.driver strict named world
  obtain ⟨errors, ran, order, told⟩ :=
    ended (Option.isNone_iff_eq_none.mp unstopped)
  refine ⟨_, errors, ran, names, ?_, ?_⟩
  · exact order.trans (congrArg (fun failures =>
      (failures.map Prod.fst).eraseDups) failures)
  · exact (told "missing").trans (congrArg (fun failures =>
      failures.reverse.lookup "missing") failures)

/-- The log is kept in the file of a flow. -/
private def loggedInFlow : World (List (ScriptedFailure × Nat)) :=
  let files : FileSystem :=
    ⟨[(["b.json"], .file (Text.encodeUtf8
      "\x7b\"name\": \"B\", \"steps\": []\x7d"))], []⟩
  { World.rehearsal .plain files with
    log := { Log.start with
      threshold := some LogLevel.info.rank
      file := some (Path.ofText "b.json") } }

/-- The line about the error of the first source spoils the file of the second
one, which would have been run by itself. -/
theorem runAll_writes_between_turns :
    let runner : Runner := ⟨.rehearsal, .absent, .off⟩
    let alone (source : FlowSource) :=
      runner.run Script.plain.driver strict source
    let first := alone (.file "a.json") loggedInFlow
    let second := alone (.file "b.json") first.2
    let batch := runner.runAll Script.plain.driver strict
      [.file "a.json", .file "b.json"] loggedInFlow
    first.1.toOption.isNone ∧ second.1.toOption.map (·.name) = some "B" ∧
      batch.1.toOption.map (fun batch =>
        (batch.results.map (·.name), batch.errors.map Prod.fst)) =
          some ([], ["a.json", "b.json"]) := by
  decide +kernel

end Runner

end PageFlow
