import PageFlow.Proofs.Course
import PageFlow.Runner.Smoke

/-!
# Journals

A journal keeps records of runs, one behind the other. It follows a runner if it
adds what the runner records, and if nothing else that the runner does reaches
it. Then a run or a smoke test that is completed adds its record, and one that
fails adds nothing.
-/

namespace PageFlow

open Act

variable {σ : Type} {driver : Driver σ} {runner : Runner} {options : RunOptions}
  {recorder : Recorder}

/-! ## Completed runs -/

/-- What a run or a smoke test comes to. -/
inductive Completed where
  | flow (result : RunResult)
  | page (result : SmokeResult)

def Completed.recordAt (time : DateTime) : Completed → RunRecord
  | .flow result => result.recordAt time
  | .page result =>
    { flowName := Smoke.recordName
      baseUrl := result.url
      passed := if result.success then 1 else 0
      failed := if result.success then 0 else 1
      total := 1
      duration := result.duration
      createdAt := Calendar.stampText time }

/-! ## Journals -/

/-- Something in the world that keeps records of runs, one behind the other, and
the records that it takes. -/
structure Journal (σ : Type) where
  holds : List RunRecord → World σ → Prop
  takes : RunRecord → Prop

namespace Journal

/-- What is held stays held. -/
def frame (journal : Journal σ) : Frame σ where
  allows before after :=
    ∀ records, journal.holds records before → journal.holds records after
  refl _ _ := id
  trans first second records := second records ∘ first records

/-- Screenshots in a directory do not reach a journal. -/
def Spares (journal : Journal σ) (directory : Path) : Prop :=
  ∀ label time data,
    (writeFile (Screenshot.path directory label time) data).Within journal.frame

/-- What a runner records is held, and nothing else of what it does reaches a
journal. -/
structure Follows (journal : Journal σ) (runner : Runner) : Prop where
  polite : runner.recorder.Polite
  telling : journal.frame.AdmitsTelling
  delays : journal.frame.AdmitsDelays
  reply : ∀ {α : Type} (event : SessionEvent) (asked : Int → σ → Reply σ α),
    (Act.reply event asked).Within journal.frame
  record : ∀ (records : List RunRecord) (new : RunRecord) (world : World σ),
    new.createdAt = Calendar.stampText (Calendar.ofMoment world.moment) →
    journal.takes new → journal.holds records world →
    journal.holds (records ++ [new])
      (runner.record new.flowName new.baseUrl new.passed new.failed new.total
        new.duration world).2

end Journal

namespace Runner

variable {frame : Frame σ}

theorem within_hold {flow : Flow}
    (admits : frame.AdmitsRuns driver recorder
      (runner.contextFor options flow).screenshotDir) (log : Logger)
    (time : Int) : (runner.hold driver options flow log time).Within frame :=
  within_bind (within_withSession admits.toAdmitsSessions
    (within_runSteps admits _ _ _ _ _) _)
    fun _ => within_bind (within_ask _) fun _ => within_pure _

/-- A page is looked at within a frame that admits calls, and no picture is
taken of it. -/
theorem within_pageError
    (calls : ∀ call, (∀ path, call ≠ .screenshot path) →
      (perform driver call).Within frame) (url : String) (timeout : Int) :
    (pageError driver url timeout).Within frame := by
  have inspecting : (inspectPage driver url timeout).Within frame :=
    within_bind (calls _ nofun) fun _ => within_bind (calls _ nofun) fun _ =>
      within_bind (calls _ nofun) fun _ => within_pure _
  refine within_bind (within_settle inspecting) fun result => ?_
  cases result with
  | ok complaint => exact within_pure _
  | error fault => exact within_pure _

theorem allows_run (admits : frame.AdmitsTelling) (runner : Runner)
    (driver : Driver σ) (options : RunOptions) (source : FlowSource)
    (world : World σ) :
    frame.allows (runner.runSource driver options source world).2
      (runner.run driver options source world).2 := by
  refine allows_of_bind _ (fun result => ?_) world
  split
  · exact within_bind (within_ask _) fun _ =>
      within_bind (admits.print _) fun _ => within_pure _
  · exact within_pure _

theorem allows_runAll (admits : frame.AdmitsTelling) (runner : Runner)
    (driver : Driver σ) (options : RunOptions) (sources : List FlowSource)
    (world : World σ) :
    frame.allows (runner.runEach driver options sources .empty world).2
      (runner.runAll driver options sources world).2 := by
  refine allows_of_bind _ (fun batch => ?_) world
  split
  · exact within_bind (within_ask _) fun _ =>
      within_bind (admits.print _) fun _ => within_pure _
  · exact within_bind (within_printReport admits _) fun _ => within_pure _

theorem moment_of_record (runner : Runner) (flowName baseUrl : String)
    (passed failed total duration : Int) (world : World σ) :
    (runner.record flowName baseUrl passed failed total duration
      world).2.moment = world.moment := by
  have logging : (Frame.keeping (World.moment : World σ → Int)).AdmitsLogging :=
    Frame.keeping_admitsLogging fun _ _ _ _ => rfl
  exact within_record logging (keeping_submit (fun _ _ _ _ _ => rfl) _) _
    _ _ _ _ _ world

/-- A smoke test ends with its session, or else its result is printed and
recorded. -/
theorem smoke_eq (polite : runner.recorder.Polite) {url : String}
    {timeout : Option Int} {headless : Option Bool} {world after : World σ}
    {result : Except Fault SmokeResult}
    (ended : runner.smoke driver url timeout headless world = (result, after)) :
    ∃ seen between, withSession driver (headless.getD runner.settings.headless)
        (pageError driver url (timeout.getD runner.settings.smokeTimeout))
          world = (seen, between) ∧
      ((∃ fault, result = .error fault ∧ after = between) ∨
        ∃ (final : SmokeResult) (told : World σ) (record : RunRecord),
          result = .ok final ∧ final.url = url ∧
            printReport (Report.smoke final) between = (.ok (), told) ∧
            record = (Completed.page final).recordAt
              (Calendar.ofMoment told.moment) ∧
            runner.record record.flowName record.baseUrl record.passed
                record.failed record.total
              record.duration told = (.ok (), after)) := by
  rw [smoke, milliseconds, ask_bind] at ended
  rcases looked : withSession driver (headless.getD runner.settings.headless)
    (pageError driver url (timeout.getD runner.settings.smokeTimeout))
    world with ⟨fault | error, between⟩
  all_goals
    refine ⟨_, between, rfl, ?_⟩
  · rw [bind_of_error looked] at ended
    cases ended
    exact .inl ⟨fault, rfl, rfl⟩
  · rw [bind_of_ok looked, since, ask_bind] at ended
    let final : SmokeResult :=
      ⟨url, error.isNone, max 0 (between.milliseconds - world.milliseconds),
        error⟩
    let passed : Int := if final.success then 1 else 0
    obtain ⟨told, telling⟩ : ∃ told,
        printReport (Report.smoke final) between = (.ok (), told) := by
      obtain ⟨_, told, telling⟩ :=
        total_report .none (Report.flat_smoke final) between
      exact ⟨told, telling⟩
    obtain ⟨_, recorded, recording⟩ :=
      total_record polite Smoke.recordName url passed (1 - passed) 1
        final.duration told
    have finished : (Except.ok final, recorded) = (result, after) := by
      rw [← ended, bind_of_ok telling, bind_of_ok recording]
      rfl
    cases finished
    have failed : (1 - passed : Int) = if final.success then 0 else 1 := by
      cases success : final.success <;> simp [passed, success]
    rw [failed] at recording
    exact .inr ⟨final, told, _, rfl, rfl, telling, rfl, recording⟩

end Runner

namespace Journal.Follows

variable {journal : Journal σ} (follows : journal.Follows runner)

include follows

theorem admitsRuns (driver : Driver σ) {directory : Path}
    (spares : journal.Spares directory) :
    journal.frame.AdmitsRuns driver .absent directory where
  toAdmitsTelling := follows.telling
  toAdmitsDelays := follows.delays
  perform call stays := by
    refine within_perform (follows.reply _ _) ?_
    rintro path data rfl
    obtain ⟨label, time, rfl⟩ := stays
    exact spares label time data
  launch _ := follows.reply _ _
  release := follows.reply _ _
  submit _ := within_pure _

theorem holds_conclude {records : List RunRecord} (log : Logger)
    {result : RunResult} {world : World σ}
    (taken : journal.takes (result.recordAt (Calendar.ofMoment world.moment)))
    (held : journal.holds records world) :
    journal.holds
        (records ++ [result.recordAt (Calendar.ofMoment world.moment)])
      (runner.conclude options log result world).2 := by
  let told := (Act.log log .info (Runner.finishText result) world).2
  have calm : world.Calm told := calm_log _ _ _ _
  have before : journal.holds records told :=
    follows.telling.log _ _ _ world records held
  have recorded :=
    follows.record records
      (result.recordAt (Calendar.ofMoment world.moment)) told
      (calm.moment ▸ rfl) taken before
  exact Runner.allows_conclude follows.telling runner options log result
    world _ recorded

theorem holds_runFlow {records : List RunRecord} {flow : Flow}
    {world after : World σ} {result : Except Fault RunResult}
    (spares : journal.Spares (runner.contextFor options flow).screenshotDir)
    (ended : runner.runFlow driver options flow world = (result, after))
    (taken :
      ∀ record ∈ (result.toOption.map
        (RunResult.recordAt · (Calendar.ofMoment after.moment))).toList,
      journal.takes record)
    (held : journal.holds records world) :
    journal.holds (records ++ (result.toOption.map
      (RunResult.recordAt · (Calendar.ofMoment after.moment))).toList)
        after := by
  rw [Runner.runFlow_eq_parts] at ended
  rcases preparing : runner.prepare options flow world
    with ⟨fault | ⟨log, time⟩, begun⟩
  all_goals
    have before : journal.holds records begun :=
      (Runner.within_prepare follows.telling _ _ _).allows
        preparing records held
  · rw [bind_of_error preparing] at ended
    cases ended
    rwa [Except.toOption, Option.map_none, Option.toList_none, List.append_nil]
  · rw [bind_of_ok preparing] at ended
    rcases holding : runner.hold driver options flow log time begun
      with ⟨fault | final, closed⟩
    all_goals
      have between : journal.holds records closed :=
        (Runner.within_hold (follows.admitsRuns driver spares) _ _).allows
          holding records before
    · rw [bind_of_error holding] at ended
      cases ended
      rwa [Except.toOption, Option.map_none, Option.toList_none,
        List.append_nil]
    · obtain ⟨last, concluding, -, -⟩ :=
        Runner.conclude_of_polite follows.polite options log final closed
      have moment := Runner.moment_of_conclude runner options log final closed
      rw [bind_of_ok holding, concluding] at ended
      cases ended
      rw [concluding] at moment
      rw [moment] at taken ⊢
      have concluded :
          journal.holds _ (runner.conclude options log final closed).2 :=
        follows.holds_conclude log (taken _ (List.mem_singleton_self _)) between
      rwa [concluding] at concluded

theorem holds_runSource {records : List RunRecord} {source : FlowSource}
    {world after : World σ} {result : Except Fault RunResult}
    (spares : journal.Spares
      (options.screenshotDir.getD runner.settings.screenshotDir))
    (ended : runner.runSource driver options source world = (result, after))
    (taken :
      ∀ record ∈ (result.toOption.map
        (RunResult.recordAt · (Calendar.ofMoment after.moment))).toList,
      journal.takes record)
    (held : journal.holds records world) :
    journal.holds (records ++ (result.toOption.map
      (RunResult.recordAt · (Calendar.ofMoment after.moment))).toList)
        after := by
  rcases loading : Runner.loadFlow source world with ⟨fault | flow, loaded⟩
  all_goals
    have same : loaded = world := (congrArg Prod.snd loading).symm
    subst same
  · rw [Runner.runSource, bind_of_error loading] at ended
    cases ended
    rwa [Except.toOption, Option.map_none, Option.toList_none, List.append_nil]
  · rw [Runner.runSource, bind_of_ok loading] at ended
    exact follows.holds_runFlow spares ended taken held

/-- A smoke test adds the record of its result, and nothing if it fails. -/
theorem holds_smoke {records : List RunRecord} {url : String}
    {timeout : Option Int} {headless : Option Bool} {world after : World σ}
    {result : Except Fault SmokeResult}
    (ended : runner.smoke driver url timeout headless world = (result, after))
    (taken : ∀ record ∈ (result.toOption.map fun final =>
      (Completed.page final).recordAt (Calendar.ofMoment after.moment)).toList,
        journal.takes record)
    (held : journal.holds records world) :
    journal.holds (records ++ (result.toOption.map fun final =>
      (Completed.page final).recordAt (Calendar.ofMoment after.moment)).toList)
        after := by
  have calls (call : Call) (other : ∀ path, call ≠ .screenshot path) :
      (perform driver call).Within journal.frame :=
    within_perform (follows.reply _ _) fun path _ picture =>
      absurd picture (other path)
  have looking (inner : Bool) (timeout : Int) :
      (withSession driver inner (Runner.pageError driver url timeout)).Within
        journal.frame :=
    within_bind (follows.reply _ _) fun _ =>
      within_ensuring (Runner.within_pageError calls _ _) (follows.reply _ _)
  obtain ⟨seen, between, looked, course⟩ := Runner.smoke_eq follows.polite ended
  have kept : journal.holds records between :=
    (looking _ _).allows looked records held
  rcases course with ⟨fault, rfl, rfl⟩ | ⟨final, told, record, rfl, -, printing,
    same, recording⟩
  · rwa [Except.toOption, Option.map_none, Option.toList_none, List.append_nil]
  · have before : journal.holds records told :=
      (Runner.within_printReport follows.telling _).allows printing records kept
    have moment :=
      Runner.moment_of_record runner record.flowName record.baseUrl
        record.passed
        record.failed record.total record.duration told
    rw [recording] at moment
    have stamp :
        record = (Completed.page final).recordAt
          (Calendar.ofMoment after.moment) := by
      rw [moment, same]
    have created :
        record.createdAt = Calendar.stampText
          (Calendar.ofMoment told.moment) := by
      rw [same]
      rfl
    have recorded := follows.record records record told created
      (taken _ (stamp ▸ List.mem_singleton_self _)) before
    rw [recording, stamp] at recorded
    exact recorded

end Journal.Follows

end PageFlow
