import PageFlow.Proofs.Batch

/-!
# Turns

A batch takes its sources in turn: each is run from the world that the one
before has left. What a batch comes to is said by its turns, and a turn differs
from a run of the source by itself in no more than what is printed.
-/

namespace PageFlow

open Act

variable {σ α : Type} {driver : Driver σ} {runner : Runner}
  {options : RunOptions}

/-! ## Turns -/

/-- One source of a batch, the world in which it is run, and what comes of
it. -/
structure Turn (σ : Type) where
  source : FlowSource
  before : World σ
  result : Except Fault RunResult
  after : World σ

namespace Turn

def take (attempt : FlowSource → Act σ RunResult) (source : FlowSource)
    (world : World σ) : Turn σ where
  source := source
  before := world
  result := (attempt source world).1
  after := (attempt source world).2

/-- No other turn is taken behind this one: a run with a failed step where
failures are to stop the batch, or a request to stop the program. Other errors
do not end a batch. -/
def isLast (options : RunOptions) (turn : Turn σ) : Bool :=
  match turn.result with
  | .ok result => result.failed > 0 && options.stopOnFailure
  | .error fault => fault.exits

/-- The world that a turn leaves to the next one: the log was told of an
error. -/
def left (turn : Turn σ) : World σ :=
  match turn.result with
  | .ok _ => turn.after
  | .error fault =>
    if fault.exits then turn.after
    else (log Runner.runLog .error
      ("Error running flow " ++ turn.source.text ++ ": " ++ fault.message)
      turn.after).2

/-- The request to stop that a turn has ended with. -/
def stop? (turn : Turn σ) : Option Fault :=
  match turn.result with
  | .ok _ => none
  | .error fault => if fault.exits then some fault else none

/-- A batch with the result of one more turn, or with its error under the name
of the source. -/
def addTo (batch : BatchResult) (turn : Turn σ) : BatchResult :=
  match turn.result with
  | .ok result => batch.addResult result
  | .error fault => batch.addError turn.source.text fault.message

/-- The turns of some sources, one behind the other, up to one that is the last
or to a source without a name. -/
def all (attempt : FlowSource → Act σ RunResult) (options : RunOptions) :
    List FlowSource → World σ → List (Turn σ)
  | [], _ => []
  | source :: rest, world =>
    match source.key with
    | .error _ => []
    | .ok _ =>
      let turn := take attempt source world
      turn ::
        if turn.isLast options then [] else all attempt options rest turn.left

/-- The fault that a batch ends with: that of a source without a name, or a
request to stop. -/
def halt? (attempt : FlowSource → Act σ RunResult) (options : RunOptions) :
    List FlowSource → World σ → Option Fault
  | [], _ => none
  | source :: rest, world =>
    match source.key with
    | .error fault => some (.reason fault)
    | .ok _ =>
      let turn := take attempt source world
      if turn.isLast options then turn.stop?
      else halt? attempt options rest turn.left

def behind (world : World σ) : List (Turn σ) → World σ
  | [] => world
  | turn :: rest => behind turn.left rest

/-- What a batch comes to by some turns: the fault that it ends with, or what
was added by each of them. -/
def comeTo (halt : Option Fault) (turns : List (Turn σ)) (batch : BatchResult) :
    Except Fault BatchResult :=
  match halt with
  | some fault => .error fault
  | none => .ok (turns.foldl addTo batch)

theorem allows_left {frame : Frame σ} (admits : frame.AdmitsLogging)
    (turn : Turn σ) :
    frame.allows turn.after turn.left := by
  unfold left
  split
  · exact frame.refl _
  · split
    · exact frame.refl _
    · exact admits.log _ _ _ _

theorem calm_left (turn : Turn σ) : turn.after.Calm turn.left :=
  turn.allows_left Frame.calm_admitsTelling.toAdmitsLogging

theorem isLast_of_stop? {turn : Turn σ} {fault : Fault}
    (stops : turn.stop? = some fault) : turn.isLast options = true := by
  unfold stop? at stops
  unfold isLast
  split at stops
  · cases stops
  · split at stops
    · assumption
    · cases stops

theorem stop?_of_goesOn {turn : Turn σ} (goesOn : turn.isLast options = false) :
    turn.stop? = none := by
  cases stops : turn.stop? with
  | none => rfl
  | some fault =>
      rw [isLast_of_stop? stops] at goesOn
      cases goesOn

section Sources

variable {attempt : FlowSource → Act σ RunResult} {source : FlowSource}
  {name : String} {world : World σ}

theorem all_of_unnamed {fault : Value.JsonFault}
    (unnamed : source.key = .error fault) (sources : List FlowSource) :
    all attempt options (source :: sources) world = [] ∧
      halt? attempt options (source :: sources) world =
        some (.reason fault) := by
  rw [all, halt?, unnamed]
  exact ⟨rfl, rfl⟩

theorem all_of_isLast (named : source.key = .ok name)
    (last : (take attempt source world).isLast options = true)
    (sources : List FlowSource) :
    all attempt options (source :: sources) world =
        [take attempt source world] ∧
      halt? attempt options (source :: sources) world =
        (take attempt source world).stop? := by
  rw [all, halt?, named]
  exact ⟨congrArg (_ :: ·) (if_pos last), if_pos last⟩

theorem all_of_goesOn (named : source.key = .ok name)
    (goesOn : (take attempt source world).isLast options = false)
    (sources : List FlowSource) :
    all attempt options (source :: sources) world =
        take attempt source world ::
          all attempt options sources (take attempt source world).left ∧
      halt? attempt options (source :: sources) world =
        halt? attempt options sources (take attempt source world).left := by
  have unlike : ¬ (take attempt source world).isLast options = true := by
    simp [goesOn]
  rw [all, halt?, named]
  exact ⟨congrArg (_ :: ·) (if_neg unlike), if_neg unlike⟩

/-- A source takes no turn, or the last one, or one that others come behind. -/
theorem all_cons (attempt : FlowSource → Act σ RunResult) (options : RunOptions)
    (source : FlowSource) (sources : List FlowSource) (world : World σ) :
    let turn := take attempt source world
    let turns := all attempt options (source :: sources) world
    turns = [] ∨
      turn.isLast options = true ∧ turns = [turn] ∨
      turn.isLast options = false ∧
        turns = turn :: all attempt options sources turn.left := by
  intro turn turns
  cases named : source.key with
  | error fault => exact .inl (all_of_unnamed named sources).1
  | ok name =>
      cases last : turn.isLast options with
      | true => exact .inr (.inl ⟨rfl, (all_of_isLast named last sources).1⟩)
      | false => exact .inr (.inr ⟨rfl, (all_of_goesOn named last sources).1⟩)

theorem halt?_of_named {sources : List FlowSource}
    (named : ∀ source ∈ sources, source.key = .ok source.text) :
    halt? attempt options sources world =
      (all attempt options sources world).findSome? stop? := by
  induction sources generalizing world with
  | nil => rfl
  | cons source sources induction =>
      obtain ⟨first, others⟩ := List.forall_mem_cons.mp named
      cases last : (take attempt source world).isLast options with
      | true =>
          obtain ⟨one, halts⟩ := all_of_isLast first last sources
          rw [one, halts, List.findSome?_singleton]
      | false =>
          obtain ⟨more, halts⟩ := all_of_goesOn first last sources
          rw [more, halts, List.findSome?_cons, stop?_of_goesOn last]
          exact induction others

end Sources

end Turn

theorem FlowSource.text_of_key {source : FlowSource} {name : String}
    (named : source.key = .ok name) : source.text = name := by
  cases source with
  | value document =>
      rw [key] at named
      split at named
      · exact Except.ok.inj named
      · cases named
  | _ => exact Except.ok.inj named

namespace Runner

/-- The fault of a source without a name leaves the batch. -/
theorem runEach_of_unnamed {source : FlowSource} {fault : Value.JsonFault}
    (unnamed : source.key = .error fault) (sources : List FlowSource)
    (batch : BatchResult) (world : World σ) :
    runner.runEach driver options (source :: sources) batch world =
      (.error (.reason fault), world) := by
  rw [runEach, unnamed]
  rfl

/-- A batch takes one turn, and then it stops, or ends, or goes on with what the
turn has added to it. -/
theorem runEach_cons {source : FlowSource} {name : String}
    (named : source.key = .ok name) (sources : List FlowSource)
    (batch : BatchResult) (world : World σ) :
    let turn := Turn.take (runner.runSource driver options) source world
    runner.runEach driver options (source :: sources) batch world =
      match turn.stop? with
      | some fault => (.error fault, turn.left)
      | none =>
        if turn.isLast options then (.ok (turn.addTo batch), turn.left)
        else
          runner.runEach driver options sources (turn.addTo batch)
            turn.left := by
  rw [runEach, named, bind_of_ok (orFail_ok _ _ _)]
  rcases ran : runner.runSource driver options source world with
    ⟨fault | result, after⟩ <;>
    simp only [Turn.take, Turn.stop?, Turn.isLast, Turn.left, Turn.addTo, ran,
      FlowSource.text_of_key named]
  · cases exits : fault.exits with
    | true =>
        rw [bind_of_error (by rw [settle_of_error ran, if_pos exits])]
        rfl
    | false =>
        have goesOn : ¬ fault.exits = true := by simp [exits]
        rw [bind_of_ok (by rw [settle_of_error ran, if_neg goesOn])]
        rfl
  · rw [bind_of_ok (settle_of_ok ran)]
    dsimp only
    split
    · rfl
    · rfl

/-- A batch comes to what its turns come to. -/
theorem runEach_eq_turns (sources : List FlowSource) (batch : BatchResult)
    (world : World σ) :
    let attempt := runner.runSource driver options
    let turns := Turn.all attempt options sources world
    runner.runEach driver options sources batch world =
      (Turn.comeTo (Turn.halt? attempt options sources world) turns batch,
        Turn.behind world turns) := by
  intro attempt
  -- Behind each turn the batch has grown by it, and the next one starts in the
  -- world that it has left.
  induction sources generalizing batch world with
  | nil => rfl
  | cons source sources induction =>
      cases named : source.key with
      | error fault =>
          have ended : Turn.all attempt options (source :: sources) world = [] ∧
              Turn.halt? attempt options (source :: sources) world = _ :=
            Turn.all_of_unnamed named sources
          rw [runEach_of_unnamed named, ended.1, ended.2]
          rfl
      | ok name =>
          rw [runEach_cons named]
          let turn := Turn.take attempt source world
          cases last : turn.isLast options with
          | true =>
              obtain ⟨one, halts⟩ := Turn.all_of_isLast named last sources
              rw [one, halts]
              change (match turn.stop? with | some _ => _ | none => _) = _
              cases turn.stop? with
              | some fault => rfl
              | none => rfl
          | false =>
              obtain ⟨more, halts⟩ := Turn.all_of_goesOn named last sources
              rw [more, halts]
              change (match turn.stop? with | some _ => _ | none => _) = _
              rw [Turn.stop?_of_goesOn last]
              exact induction _ _

end Runner

/-! ## Runs and what they print -/

namespace Act

theorem unprinting_settle {act : Act σ α} (inner : act.Unprinting) :
    (settle act).Unprinting := by
  intro world output
  have begun := inner world output
  rcases result : act world with ⟨fault | value, after⟩ <;> rw [result] at begun
  · rw [settle_of_error result, settle_of_error begun]
    split <;> rfl
  · rw [settle_of_ok result, settle_of_ok begun]

end Act

namespace Runner

theorem unprinting_submit (recorder : Recorder) (record : RunRecord) :
    (submit recorder record : Act σ Unit).Unprinting := by
  have receiving : (change fun world : World σ =>
      { world with received := world.received ++ [record] }).Unprinting :=
    unprinting_change fun _ _ => rfl
  cases recorder with
  | absent => exact unprinting_pure _
  | history path =>
      refine unprinting_bind receiving fun _ =>
        unprinting_bind (unprinting_logger _) fun _ =>
        unprinting_bind ?_ fun _ => unprinting_log _ _ _
      intro world output
      dsimp only
      split <;> rfl
  | custom refuses =>
      refine unprinting_bind (unprinting_ask fun _ _ => rfl) fun before =>
        unprinting_bind receiving fun _ => ?_
      split
      · exact unprinting_fail _
      · exact unprinting_pure _

theorem unprinting_record (runner : Runner) (flowName baseUrl : String)
    (passed failed total duration : Int) :
    (runner.record flowName baseUrl passed failed total duration : Act σ
      Unit).Unprinting := by
  refine unprinting_bind (unprinting_ask fun _ _ => rfl) fun time =>
    unprinting_bind (unprinting_settle (unprinting_submit _ _)) fun result => ?_
  cases result with
  | ok _ => exact unprinting_pure _
  | error _ => exact unprinting_log _ _ _

theorem unprinting_loadFlow (source : FlowSource) :
    (loadFlow source : Act σ Flow).Unprinting := by
  intro world output
  cases source <;> rfl

/-- What a run comes to does not depend on the text on the console. -/
theorem runSource_matches (runner : Runner) (driver : Driver σ)
    (options : RunOptions) (source : FlowSource) :
    (runner.runSource driver options source).Matches
        (runner.runSource driver options source)
      .unprinted Eq := by
  have reporting (flow : Flow) {parts : List Markup.Part}
      (flat : Markup.Flat parts) :
      (report options parts).Matches (report options parts)
        (.unprinted : Likeness σ) anyValues :=
    matches_report
      (Likeness.unprinted_admitsRuns driver
        (runner.contextFor options flow).screenshotDir)
      options.json flat flat
  refine matches_bind (unprinting_loadFlow source).matches ?_
  rintro flow _ rfl
  rw [runFlow_eq]
  refine matches_bind
    (undertake_unprinted runner driver options flow runner.recorder
      runner.recorder options.json options.json) ?_
  rintro ⟨log, result⟩ _ rfl
  refine matches_bind (unprinting_log _ _ _).matches fun _ _ _ => ?_
  refine matches_bind (unprinting_record _ _ _ _ _ _ _).matches fun _ _ _ => ?_
  exact matches_bind (reporting flow (Report.flat_summary result)) fun _ _ _ =>
    matches_pure rfl

/-- A run of a source by itself comes to the same, but for what it prints in the
end. -/
theorem run_matches (runner : Runner) (driver : Driver σ) (options : RunOptions)
    (source : FlowSource) :
    (runner.runSource driver options source).Matches
        (runner.run driver options source)
      .unprinted Eq := by
  intro world other alike
  obtain ⟨agree, output, same⟩ :=
    runSource_matches runner driver options source world other alike
  obtain ⟨printed, ran⟩ := run_eq_printed runner driver options source other
  rw [Meets, ran, same]
  exact ⟨agree, printed, rfl⟩

end Runner

/-! ## Turns and what they print -/

namespace Turn

/-- Turns of the same source with the same result, in worlds that differ at most
in what was printed. -/
structure Alike (turn other : Turn σ) : Prop where
  source : turn.source = other.source
  result : turn.result = other.result
  after : Likeness.unprinted.alike turn.after other.after

namespace Alike

variable {turn other : Turn σ}

theorem isLast (alike : turn.Alike other) (options : RunOptions) :
    turn.isLast options = other.isLast options := by
  simp only [Turn.isLast, alike.result]

theorem stop? (alike : turn.Alike other) : turn.stop? = other.stop? := by
  simp only [Turn.stop?, alike.result]

theorem addTo (alike : turn.Alike other) (batch : BatchResult) :
    turn.addTo batch = other.addTo batch := by
  simp only [Turn.addTo, alike.result, alike.source]

theorem left (alike : turn.Alike other) :
    Likeness.unprinted.alike turn.left other.left := by
  obtain ⟨output, same⟩ := alike.after
  unfold Turn.left
  rw [alike.result, alike.source, same]
  cases other.result with
  | ok result => exact ⟨output, rfl⟩
  | error fault =>
      dsimp only
      split
      · exact ⟨output, rfl⟩
      · exact ⟨output,
          congrArg Prod.snd (unprinting_log _ _ _ turn.after output)⟩

end Alike

theorem all_alike {attempt twin : FlowSource → Act σ RunResult}
    (meeting : ∀ source, (attempt source).Matches (twin source) .unprinted Eq)
    (options : RunOptions) (sources : List FlowSource) {world other : World σ}
    (alike : Likeness.unprinted.alike world other) :
    List.Forall₂ Alike (all attempt options sources world)
        (all twin options sources other) ∧
      halt? attempt options sources world =
        halt? twin options sources other := by
  induction sources generalizing world other with
  | nil => exact ⟨.nil, rfl⟩
  | cons source sources induction =>
      obtain ⟨agree, after⟩ := meeting source world other alike
      have turns : Alike (take attempt source world) (take twin source other) :=
        ⟨rfl, agree.eq, after⟩
      rw [all, all, halt?, halt?]
      cases source.key with
      | error fault => exact ⟨.nil, rfl⟩
      | ok name =>
          dsimp only
          rw [turns.isLast options]
          split
          · exact ⟨.cons turns .nil, turns.stop?⟩
          · obtain ⟨rest, halts⟩ := induction turns.left
            exact ⟨.cons turns rest, halts⟩

theorem comeTo_of_alike {turns others : List (Turn σ)}
    (alike : List.Forall₂ Alike turns others) (halt : Option Fault)
    (batch : BatchResult) :
    comeTo halt turns batch = comeTo halt others batch := by
  have sum : turns.foldl addTo batch = others.foldl addTo batch := by
    induction alike generalizing batch with
    | nil => rfl
    | cons first _ induction =>
        rw [List.foldl_cons, List.foldl_cons, first.addTo, induction]
  unfold comeTo
  rw [sum]

theorem behind_of_alike {turns others : List (Turn σ)}
    (alike : List.Forall₂ Alike turns others) {world other : World σ}
    (begun : Likeness.unprinted.alike world other) :
    Likeness.unprinted.alike (behind world turns) (behind other others) := by
  induction alike generalizing world other with
  | nil => exact begun
  | cons first _ induction => exact induction first.left

end Turn

namespace Runner

/-- A batch is what its sources come to, each run by itself in the world that
the one before has left. -/
theorem runAll_eq_turns (runner : Runner) (driver : Driver σ)
    (options : RunOptions) (sources : List FlowSource) (world : World σ) :
    let attempt := runner.run driver options
    let turns := Turn.all attempt options sources world
    ∃ output, runner.runAll driver options sources world =
      (Turn.comeTo (Turn.halt? attempt options sources world) turns .empty,
        { Turn.behind world turns with output := output }) := by
  intro attempt turns
  obtain ⟨printed, ran⟩ := runAll_eq_printed runner driver options sources world
  have begun : Likeness.unprinted.alike world world := ⟨world.output, rfl⟩
  obtain ⟨alike, halts⟩ :=
    Turn.all_alike (run_matches runner driver options) options sources begun
  obtain ⟨output, left⟩ := Turn.behind_of_alike alike begun
  rw [ran, runEach_eq_turns, Turn.comeTo_of_alike alike, halts, left]
  exact ⟨printed, rfl⟩

end Runner

end PageFlow
