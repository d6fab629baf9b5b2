import PageFlow.Proofs.Likeness

/-!
# Reports and records

What is printed of a run, and what a recorder makes of it, has no influence on
the run. Until the session ends two such runs differ in nothing but the text on
the console, and afterwards neither a report nor a record can fail.
-/

namespace PageFlow

open Act

variable {σ α : Type}

/-- Worlds that differ in nothing but the text on the console. -/
def Likeness.unprinted : Likeness σ where
  alike world other := ∃ output, other = { world with output := output }
  drifts := False
  sound _ := True
  sound' _ := True

theorem Agree.eq {result other : Except Fault α}
    (agree : Agree Eq result other) : result = other := by
  cases agree with
  | ok same => rw [same]
  | error fault => rfl

theorem Likeness.eq_of_near {value other : α}
    (near : (Likeness.unprinted : Likeness σ).Near value other) :
    value = other :=
  near.resolve_left id

/-- An act that neither reads nor writes the console. -/
def Act.Unprinting (act : Act σ α) : Prop :=
  ∀ world output,
    act { world with output := output } =
      ((act world).1, { (act world).2 with output := output })

namespace Act

theorem Unprinting.matches {act : Act σ α} (unprinting : act.Unprinting) :
    act.Matches act .unprinted Eq := by
  rintro world _ ⟨output, rfl⟩
  rw [Meets, unprinting world output]
  refine ⟨?_, output, rfl⟩
  cases (act world).1 with
  | error fault => exact .error fault
  | ok value => exact .ok rfl

theorem unprinting_pure (value : α) : (pure value : Act σ α).Unprinting :=
  fun _ _ => rfl

theorem unprinting_fail (fault : Fault) : (fail fault : Act σ α).Unprinting :=
  fun _ _ => rfl

theorem unprinting_ask {f : World σ → α}
    (blind : ∀ world output, f { world with output := output } = f world) :
    (ask f).Unprinting := by
  intro world output
  simp only [ask, blind]

theorem unprinting_change {f : World σ → World σ}
    (blind : ∀ world output,
      f { world with output := output } = { f world with output := output }) :
    (change f).Unprinting := by
  intro world output
  rw [change_apply, change_apply, blind]

theorem unprinting_bind {β : Type} {act : Act σ α} {next : α → Act σ β}
    (first : act.Unprinting) (second : ∀ value, (next value).Unprinting) :
    (act >>= next).Unprinting := by
  intro world output
  have begun := first world output
  rcases result : act world with ⟨fault | value, between⟩ <;>
    rw [result] at begun
  · rw [bind_of_error result, bind_of_error begun]
  · rw [bind_of_ok result, bind_of_ok begun]
    exact second value between output

theorem unprinting_ensureDirectory (path : Path) :
    (ensureDirectory path : Act σ Unit).Unprinting := by
  intro world output
  unfold ensureDirectory
  dsimp only
  split <;> rfl

theorem unprinting_settings : (settings : Act σ Settings).Unprinting := by
  intro world output
  unfold settings
  dsimp only
  split
  · rfl
  · split <;> rfl

theorem unprinting_setUpLog : (setUpLog : Act σ Unit).Unprinting := by
  refine unprinting_bind (unprinting_ask fun _ _ => rfl) fun log => ?_
  split
  · refine unprinting_bind unprinting_settings fun chosen => ?_
    split
    · exact unprinting_bind (unprinting_ensureDirectory _) fun _ =>
        unprinting_change fun _ _ => rfl
    · exact unprinting_change fun _ _ => rfl
  · exact unprinting_pure _

theorem unprinting_log (logger : Logger) (level : LogLevel) (message : String) :
    (log logger level message : Act σ Unit).Unprinting := by
  refine unprinting_change fun world output => ?_
  dsimp only
  split <;> rfl

theorem unprinting_reply (event : SessionEvent) (asked : Int → σ → Reply σ α) :
    (reply event asked).Unprinting := by
  intro world output
  rw [reply_eq, reply_eq]

theorem unprinting_writeFile (path : Path) (data : List UInt8) :
    (writeFile path data : Act σ Unit).Unprinting := by
  intro world output
  unfold writeFile
  dsimp only
  split <;> rfl

theorem unprinting_perform (driver : Driver σ) (call : Call) :
    (perform driver call).Unprinting := by
  refine unprinting_bind (unprinting_reply _ _) fun answer => ?_
  cases call with
  | screenshot path =>
      exact unprinting_bind (unprinting_writeFile _ _) fun _ =>
        unprinting_pure _
  | _ => exact unprinting_pure _

theorem unprinting_nap (seconds : Decimal.Binary64) :
    (nap seconds : Act σ Unit).Unprinting := by
  intro world output
  unfold nap
  dsimp only
  split
  · rfl
  · split <;> rfl

theorem unprinting_sleep (ms : Decimal.Binary64) :
    (sleep ms : Act σ Unit).Unprinting := by
  unfold sleep
  split
  · exact unprinting_nap _
  · exact unprinting_change fun _ _ => rfl

theorem unprinting_sleepWhole (ms : Int) :
    (sleepWhole ms : Act σ Unit).Unprinting := by
  unfold sleepWhole
  split
  · exact unprinting_change fun _ _ => rfl
  · split
    · exact unprinting_fail _
    · exact unprinting_nap _

theorem unprinting_delay (enabled : Bool) (least most : Int) :
    (delay enabled least most : Act σ Int).Unprinting := by
  have drawing : (draw : Act σ Int).Unprinting := fun _ _ => rfl
  cases enabled with
  | true => exact unprinting_bind drawing fun _ => unprinting_pure _
  | false => exact unprinting_pure _

theorem unprinting_logger (name : String) :
    (logger name : Act σ Logger).Unprinting :=
  unprinting_bind unprinting_setUpLog fun _ => unprinting_pure _

theorem unprinting_capture (driver : Driver σ) (directory : Path)
    (label : String) (time : Option DateTime) :
    (capture driver directory label time).Unprinting :=
  unprinting_bind (unprinting_logger _) fun _ =>
    unprinting_bind (unprinting_ask fun _ _ => rfl) fun _ =>
    unprinting_bind (unprinting_ensureDirectory _) fun _ =>
    unprinting_bind (unprinting_perform _ _) fun _ =>
    unprinting_bind (unprinting_log _ _ _) fun _ => unprinting_pure _

theorem unprinting_makeMove (driver : Driver σ) (context : StepContext)
    (move : Move) :
    (makeMove driver context move).Unprinting := by
  cases move with
  | call call =>
      exact unprinting_bind (unprinting_perform _ _) fun _ => unprinting_pure _
  | pause =>
      exact unprinting_bind (unprinting_delay _ _ _) fun _ =>
        unprinting_bind (unprinting_sleepWhole _) fun _ => unprinting_pure _
  | key locator character =>
      exact unprinting_bind (unprinting_delay _ _ _) fun _ =>
        unprinting_bind (unprinting_perform _ _) fun _ => unprinting_pure _
  | picture label =>
      exact unprinting_bind (unprinting_capture _ _ _ _) fun _ =>
        unprinting_pure _
  | check locator expected =>
      refine unprinting_bind (unprinting_perform _ _) fun found => ?_
      split
      · exact unprinting_pure _
      · exact unprinting_fail _
  | rest ms =>
      exact unprinting_bind (unprinting_sleep _) fun _ => unprinting_pure _
  | refuse reason raw =>
      rw [makeMove, refuse_eq]
      exact unprinting_fail _

end Act

namespace Likeness

theorem tracing_true (driver : Driver σ) (recorder : Recorder)
    (directory : Path) :
    (Frame.tracing fun _ : World σ => True).AdmitsRuns driver recorder
      directory where
  makeDirectory _ _ _ := trivial
  setUpLog _ _ := trivial
  log _ _ _ _ _ := trivial
  print _ _ _ := trivial
  nap _ _ _ := trivial
  draw _ _ := trivial
  perform _ _ _ _ := trivial
  launch _ _ _ := trivial
  release _ _ := trivial
  submit _ _ _ := trivial

theorem unprinted_admitsRuns (driver : Driver σ) (directory : Path) :
    (unprinted : Likeness σ).AdmitsRuns driver directory where
  tells := by
    rintro world _ ⟨output, rfl⟩
    exact .refl _
  setUpLog := unprinting_setUpLog.matches.weaken fun _ _ _ => trivial
  log := by
    intro logger logger' level message message' named said
    rw [eq_of_near named, eq_of_near said]
    exact (unprinting_log _ _ _).matches.weaken fun _ _ _ => trivial
  output := by
    rintro world _ text text' ⟨output, rfl⟩
    exact ⟨text', rfl⟩
  launch headless := (unprinting_reply _ _).matches.weaken fun _ _ _ => trivial
  release := (unprinting_reply _ _).matches.weaken fun _ _ _ => trivial
  traced := tracing_true _ _ _
  traced' := tracing_true _ _ _

end Likeness

namespace Runner

variable {recorder recorder' : Recorder}

/-- Up to the end of the session the console is all that a report changes. -/
theorem undertake_unprinted (runner : Runner) (driver : Driver σ)
    (options : RunOptions) (flow : Flow) (recorder recorder' : Recorder)
    (json json' : Bool) :
    ({ runner with recorder := recorder }.undertake driver
        { options with json := json } flow).Matches
      ({ runner with recorder := recorder' }.undertake driver
        { options with json := json' } flow)
      .unprinted Eq := by
  have moving (step : Step) (_ : step ∈ flow.steps) :
      MovesCorrespond .unprinted driver
      (runner.contextFor options flow) runner.pacing step := fun move _ =>
    ((unprinting_makeMove _ _ move).matches.weaken fun _ _ same =>
      .inr same).corresponds
  have session :=
    corresponds_attempt (Likeness.unprinted_admitsRuns driver _)
      { options with json := json } json'
      (options.headless.getD runner.settings.headless) flow moving
  refine matches_bind (unprinting_ensureDirectory _).matches fun _ _ _ => ?_
  exact Matches.weaken
    (fun world other alike => session world other alike trivial trivial)
    fun ended other same => Likeness.eq_of_near same.2

theorem runSource_unprinted (runner : Runner) (driver : Driver σ)
    (options : RunOptions) (source : FlowSource) (world : World σ)
    (polite : recorder.Polite) (polite' : recorder'.Polite)
    (json json' : Bool) :
    let first := { runner with recorder := recorder }.runSource driver
      { options with json := json } source world
    let second := { runner with recorder := recorder' }.runSource driver
      { options with json := json' } source world
    first.1 = second.1 ∧ second.2.Quiet first.2 := by
  intro first second
  rcases loading : loadFlow source world with ⟨fault | flow, loaded⟩
  · have failed : first = (.error fault, loaded) := bind_of_error loading
    have failed' : second = (.error fault, loaded) := bind_of_error loading
    rw [failed, failed']
    exact ⟨rfl, rfl⟩
  · obtain ⟨agree, output, alike⟩ :=
      undertake_unprinted runner driver options flow recorder recorder' json
        json' loaded loaded
        ⟨loaded.output, rfl⟩
    obtain ⟨after, ran, quiet⟩ :=
      runFlow_concludes { runner with recorder := recorder } polite
        driver { options with json := json } flow loaded
    obtain ⟨after', ran', quiet'⟩ :=
      runFlow_concludes { runner with recorder := recorder' } polite'
        driver { options with json := json' } flow loaded
    have begun : first = _ := (bind_of_ok loading).trans ran
    have begun' : second = _ := (bind_of_ok loading).trans ran'
    rw [alike] at quiet'
    rw [begun, begun', agree.eq]
    exact ⟨rfl, quiet.trans quiet'.symm⟩

/-- The result of a reported run is that of an unreported one, which is easier
to compute. -/
theorem result_of_run {runner : Runner} (polite : runner.recorder.Polite)
    (driver : Driver σ) (options : RunOptions) (source : FlowSource)
    (world : World σ) :
    (runner.run driver options source world).1 =
      (runner.runSource driver { options with json := true } source
        world).1 := by
  obtain ⟨after, ran, _⟩ := run_eq runner driver options source world
  rw [ran]
  exact (runSource_unprinted runner driver options source world polite polite
    options.json true).1

theorem result_of_runFlow {runner : Runner} (polite : runner.recorder.Polite)
    (driver : Driver σ) (options : RunOptions) (flow : Flow) (world : World σ) :
    (runner.runFlow driver options flow world).1 =
      (runner.runFlow driver { options with json := true } flow world).1 :=
  (runSource_unprinted runner driver options (.flow flow) world polite polite
    options.json true).1

/-- A run comes to the same whether it is reported or not, and whatever a polite
recorder does. -/
theorem run_unaffected (runner : Runner) (driver : Driver σ)
    (options : RunOptions) (source : FlowSource) (world : World σ)
    (polite : recorder.Polite) (polite' : recorder'.Polite)
    (json json' : Bool) :
    let first :=
      { runner with recorder := recorder }.run driver
        { options with json := json } source world
    let second :=
      { runner with recorder := recorder' }.run driver
        { options with json := json' } source world
    first.1 = second.1 ∧ first.2.events = second.2.events ∧
      first.2.session = second.2.session := by
  obtain ⟨after, ran, quiet⟩ :=
    run_eq { runner with recorder := recorder } driver
      { options with json := json } source world
  obtain ⟨after', ran', quiet'⟩ :=
    run_eq { runner with recorder := recorder' } driver
      { options with json := json' } source world
  obtain ⟨same, unseen⟩ :=
    runSource_unprinted runner driver options source world polite
      polite' json json'
  have seen : (after.session, after.events) = (after'.session, after'.events) :=
    (quiet.trans unseen).trans quiet'.symm
  intro first second
  have begun : first = _ := ran
  have begun' : second = _ := ran'
  rw [begun, begun']
  exact ⟨same, congrArg Prod.snd seen, congrArg Prod.fst seen⟩

/-- A recorder that refuses every record, and a report instead of a document,
change nothing. -/
theorem run_unaffected_refusal :
    let runner : Runner := ⟨.rehearsal, .absent, .off⟩
    let refusing :=
      Recorder.custom fun _ _ => some ⟨"OSError", "disk full", none⟩
    let source :=
      FlowSource.flow ⟨"[Keys]", none, none, [⟨.press "Enter", none, []⟩]⟩
    let world := World.rehearsal .plain ⟨[], []⟩
    let first := { runner with recorder := refusing }.run Script.plain.driver
      { RunOptions.none with json := false } source world
    let second := { runner with recorder := .absent }.run Script.plain.driver
      { RunOptions.none with json := true } source world
    first.1 = second.1 ∧ first.2.events = second.2.events ∧
      first.2.session = second.2.session := by
  intro runner refusing source world
  have polite : refusing.Polite := by
    rintro before record fault ⟨⟩
    rfl
  have absent : Recorder.absent.Polite := trivial
  exact run_unaffected runner Script.plain.driver .none source world polite
    absent false true

end Runner

end PageFlow
