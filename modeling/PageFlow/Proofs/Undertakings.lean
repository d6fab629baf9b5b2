import PageFlow.Proofs.Addresses
import PageFlow.Proofs.Journals
import PageFlow.Proofs.Namesakes
import PageFlow.Proofs.Visits

/-!
# Records of what was completed

Whatever is asked of some runners one after another, their recorder is handed
one record for each run and each smoke test that was completed, in order, and
none for those that failed. A record tells what its run or smoke test has come
to.
-/

namespace PageFlow

open Act

variable {σ : Type} {driver : Driver σ} {runner : Runner} {options : RunOptions}
  {recorder : Recorder}

/-- The flow that is run, or the page that is looked at. -/
inductive Task where
  | flow (options : RunOptions) (source : FlowSource)
  | page (url : String)

/-- A run or a smoke test with the worlds around it and what came of it. -/
structure Undertaking (σ : Type) where
  task : Task
  before : World σ
  result : Except Fault Completed
  after : World σ

namespace Undertaking

def completed? (undertaking : Undertaking σ) : Option Completed :=
  undertaking.result.toOption

def record? (undertaking : Undertaking σ) : Option RunRecord :=
  undertaking.completed?.map
    (Completed.recordAt (Calendar.ofMoment undertaking.after.moment))

/-- The turn of a source. -/
def ofTurn (options : RunOptions) (turn : Turn σ) : Undertaking σ where
  task := .flow options turn.source
  before := turn.before
  result := turn.result.map .flow
  after := turn.after

/-- A flow that cannot be loaded comes to its fault, and nothing is gone to. Any
other has gone to the first of its targets, from the base address of the options
or else its own one, and what it comes to is a result with its name, with this
base address and with outcomes for so many steps. A page comes to a result with
its address. -/
def Accounts (undertaking : Undertaking σ) : Prop :=
  match undertaking.task with
  | .flow options source =>
    match (Runner.loadFlow source undertaking.before).1 with
    | .error fault =>
      undertaking.result = .error fault ∧
        undertaking.after.addresses = undertaking.before.addresses
    | .ok flow =>
      ∃ result : Except Fault RunResult, undertaking.result = result.map .flow ∧
        flow.Travels (firstText [options.baseUrl, flow.baseUrl])
        undertaking.before result
          undertaking.after
  | .page url =>
    ∃ result : Except Fault SmokeResult, undertaking.result = result.map .page ∧
      ∀ final, result = .ok final → final.url = url

end Undertaking

/-! ## Jobs -/

/-- Something that is asked of a runner with a driver. -/
structure Job (σ : Type) where
  runner : Runner
  driver : Driver σ
  request : Request σ

namespace Job

def serve (world : World σ) (job : Job σ) : World σ :=
  job.runner.serve job.driver world job.request

/-- Jobs one behind the other, each with the world in which it is begun. -/
def begun : List (Job σ) → World σ → List (Job σ × World σ)
  | [], _ => []
  | job :: rest, world => (job, world) :: begun rest (job.serve world)

/-- The runs and smoke tests of a job: for a batch, those of its turns. -/
def undertakings (job : Job σ) (world : World σ) : List (Undertaking σ) :=
  match job.request with
  | .run options source =>
    [.ofTurn options (.take (job.runner.run job.driver options) source world)]
  | .runAll options sources =>
    (Turn.all (job.runner.runSource job.driver options) options sources
      world).map (.ofTurn options)
  | .smoke url timeout headless =>
    let ended := job.runner.smoke job.driver url timeout headless world
    [⟨.page url, world, ended.1.map .page, ended.2⟩]
  | .meanwhile _ => []

/-- What a job gives back: the result of a run or smoke test, the results of a
batch, or a fault. -/
def gives (job : Job σ) (world : World σ) : Except Fault (List Completed) :=
  match job.request with
  | .run options source =>
    (job.runner.run job.driver options source world).1.map fun result =>
      [.flow result]
  | .runAll options sources =>
    (job.runner.runAll job.driver options sources world).1.map fun batch =>
      batch.results.map .flow
  | .smoke url timeout headless =>
    (job.runner.smoke job.driver url timeout headless world).1.map fun result =>
      [.page result]
  | .meanwhile _ => .ok []

/-- All runs and smoke tests of jobs one behind the other. -/
def allUndertakings (jobs : List (Job σ)) (world : World σ) :
    List (Undertaking σ) :=
  (begun jobs world).flatMap fun start => start.1.undertakings start.2

end Job

/-! ## What is completed -/

theorem Turn.mem_all {attempt : FlowSource → Act σ RunResult}
    {sources : List FlowSource} {world : World σ} {turn : Turn σ}
    (among : turn ∈ all attempt options sources world) :
    ∃ source before, turn = take attempt source before := by
  induction sources generalizing world with
  | nil => cases among
  | cons source sources induction =>
      rcases all_cons attempt options source sources world with
        none | ⟨-, one⟩ | ⟨-, more⟩
      · rw [none] at among
        cases among
      · rw [one] at among
        exact ⟨source, world, List.mem_singleton.mp among⟩
      · rw [more, List.mem_cons] at among
        rcases among with here | later
        · exact ⟨source, world, here⟩
        · exact induction later

namespace Undertaking

theorem completed?_ofTurn (options : RunOptions) (turn : Turn σ) :
    (ofTurn options turn).completed? = turn.result?.map .flow := by
  rcases turn with ⟨source, before, fault | result, after⟩ <;> rfl

theorem record?_ofTurn (options : RunOptions) (turn : Turn σ) :
    (ofTurn options turn).record? =
      turn.result?.map
        (RunResult.recordAt · (Calendar.ofMoment turn.after.moment)) := by
  rcases turn with ⟨source, before, fault | result, after⟩ <;> rfl

theorem filterMap_record?_cons (undertaking : Undertaking σ)
    (later : List (Undertaking σ)) :
    (undertaking :: later).filterMap record? =
      undertaking.record?.toList ++ later.filterMap record? := by
  cases found : undertaking.record? with
  | none =>
      rw [List.filterMap_cons_none found, Option.toList_none, List.nil_append]
  | some record =>
      rw [List.filterMap_cons_some found, Option.toList_some,
        List.singleton_append]

/-- A run accounts for itself, whatever is said of it afterwards. -/
theorem accounts_of_runSource {source : FlowSource}
    {world after later : World σ} {result : Except Fault RunResult}
    (ended : runner.runSource driver options source world = (result, after))
    (same : later.addresses = after.addresses) :
    Accounts ⟨.flow options source, world, result.map .flow, later⟩ := by
  rcases loading : Runner.loadFlow source world with ⟨fault | flow, loaded⟩
  all_goals
    have unchanged : loaded = world := (congrArg Prod.snd loading).symm
    subst unchanged
    simp only [Accounts, loading]
  · rw [Runner.runSource, bind_of_error loading] at ended
    cases ended
    exact ⟨rfl, same⟩
  · rw [Runner.runSource, bind_of_ok loading] at ended
    exact ⟨result, rfl, (Runner.runFlow_travels ended).staying_right same⟩

end Undertaking

namespace Job

open Undertaking

def directory? (job : Job σ) : Option Path :=
  match job.request with
  | .run options _ | .runAll options _ =>
    some (options.screenshotDir.getD job.runner.settings.screenshotDir)
  | _ => none

/-- A journal follows a job: its runner, which keeps its screenshots elsewhere,
and what happens meanwhile. -/
structure FollowedBy (job : Job σ) (journal : Journal σ) : Prop where
  follows : journal.Follows job.runner
  spares : ∀ directory, job.directory? = some directory →
    journal.Spares directory
  meanwhile : ∀ change, job.request = .meanwhile change →
    ∀ world,
      journal.frame.allows world { change world with events := world.events }

section Following

variable {journal : Journal σ} {records : List RunRecord}

theorem holds_turns (follows : journal.Follows runner)
    (sources : List FlowSource)
    (spares : journal.Spares
      (options.screenshotDir.getD runner.settings.screenshotDir))
    {world : World σ}
    (taken :
      ∀ record ∈ ((Turn.all (runner.runSource driver options) options sources
        world).map (ofTurn options)).filterMap record?, journal.takes record)
    (held : journal.holds records world) :
    journal.holds
      (records ++ ((Turn.all (runner.runSource driver options) options sources
        world).map (ofTurn options)).filterMap record?)
      (Turn.behind world
        (Turn.all (runner.runSource driver options) options sources
          world)) := by
  induction sources generalizing world records with
  | nil =>
      rw [Turn.all, List.map_nil, List.filterMap_nil, List.append_nil]
      exact held
  | cons source sources induction =>
      let turn := Turn.take (runner.runSource driver options) source world
      have ended : runner.runSource driver options source world =
          (turn.result, turn.after) :=
        rfl
      have record : (ofTurn options turn).record? = turn.result.toOption.map
          (RunResult.recordAt · (Calendar.ofMoment turn.after.moment)) :=
        record?_ofTurn options turn
      have here (taken : ∀ record ∈ (ofTurn options turn).record?.toList,
          journal.takes record) :
          journal.holds (records ++ (ofTurn options turn).record?.toList)
            turn.left := by
        rw [record] at taken ⊢
        have added := follows.holds_runSource spares ended taken held
        exact turn.allows_left follows.telling.toAdmitsLogging _ added
      rcases Turn.all_cons (runner.runSource driver options) options source
        sources world with none | ⟨-, one⟩ | ⟨-, more⟩
      · rw [none, List.map_nil, List.filterMap_nil, List.append_nil]
        exact held
      · rw [one, List.map_singleton, filterMap_record?_cons,
          List.filterMap_nil, List.append_nil] at taken ⊢
        exact here taken
      · rw [more, List.map_cons, filterMap_record?_cons] at taken ⊢
        obtain ⟨first, later⟩ := List.forall_mem_append.mp taken
        rw [← List.append_assoc]
        exact induction later (here first)

theorem FollowedBy.holds_serve {job : Job σ} (followed : job.FollowedBy journal)
    {world : World σ}
    (taken : ∀ record ∈ (job.undertakings world).filterMap record?,
      journal.takes record) (held : journal.holds records world) :
    journal.holds (records ++ (job.undertakings world).filterMap record?)
      (job.serve world) := by
  obtain ⟨follows, spares, meanwhile⟩ := followed
  obtain ⟨runner, driver, request⟩ := job
  cases request with
  | run options source =>
      let undertaking :=
        ofTurn options (.take (runner.run driver options) source world)
      rcases ended : runner.runSource driver options source world
        with ⟨result, after⟩
      obtain ⟨output, ran⟩ :=
        Runner.run_eq_printed runner driver options source world
      have record : undertaking.record?.toList = (result.toOption.map
          (RunResult.recordAt · (Calendar.ofMoment after.moment))).toList := by
        rw [ended] at ran
        simp only [undertaking, record?_ofTurn, Turn.take, ran]
        rfl
      change ∀ record ∈ [undertaking].filterMap record?, _ at taken
      change journal.holds (records ++ [undertaking].filterMap record?) _
      rw [filterMap_record?_cons, List.filterMap_nil, List.append_nil,
        record] at taken ⊢
      have added := follows.holds_runSource (spares _ rfl) ended taken held
      have printed :
          journal.frame.allows after
            (runner.run driver options source world).2 := by
        have printing :=
          Runner.allows_run follows.telling runner driver options source world
        rwa [ended] at printing
      exact printed _ added
  | runAll options sources =>
      have added := holds_turns follows sources (spares _ rfl) taken held
      have printed :=
        Runner.allows_runAll follows.telling runner driver options sources world
      rw [Runner.runEach_eq_turns] at printed
      exact printed _ added
  | smoke url timeout headless =>
      rcases ended : runner.smoke driver url timeout headless world
        with ⟨result, after⟩
      let undertaking : Undertaking σ :=
        ⟨.page url, world, result.map .page, after⟩
      have record :
          undertaking.record?.toList = (result.toOption.map fun final =>
          (Completed.page final).recordAt
            (Calendar.ofMoment after.moment)).toList := by
        cases result <;> rfl
      simp only [undertakings, serve, Runner.serve, ended] at taken ⊢
      change ∀ record ∈ [undertaking].filterMap record?, _ at taken
      change journal.holds (records ++ [undertaking].filterMap record?) _
      rw [filterMap_record?_cons, List.filterMap_nil, List.append_nil,
        record] at taken ⊢
      exact follows.holds_smoke ended taken held
  | meanwhile change =>
      have added := meanwhile change rfl world records held
      rwa [undertakings, List.filterMap_nil, List.append_nil]

theorem holds_serveAll {jobs : List (Job σ)}
    (followed : ∀ job ∈ jobs, job.FollowedBy journal) {world : World σ}
    (taken : ∀ record ∈ (allUndertakings jobs world).filterMap record?,
      journal.takes record) (held : journal.holds records world) :
    journal.holds (records ++ (allUndertakings jobs world).filterMap record?)
      (jobs.foldl serve world) := by
  induction jobs generalizing world records with
  | nil =>
      rw [allUndertakings, begun, List.flatMap_nil, List.filterMap_nil,
        List.append_nil]
      exact held
  | cons job jobs induction =>
      obtain ⟨first, others⟩ := List.forall_mem_cons.mp followed
      rw [allUndertakings, begun, List.flatMap_cons,
        List.filterMap_append] at taken ⊢
      obtain ⟨here, later⟩ := List.forall_mem_append.mp taken
      rw [List.foldl_cons, ← List.append_assoc]
      exact induction others later (first.holds_serve here held)

end Following

/-! ## What the recorder is handed -/

theorem handed_of_present (present : recorder ≠ .absent) (record : RunRecord) :
    recorder.handed record = [record] := by
  cases recorder with
  | absent => exact absurd rfl present
  | history path => rfl
  | custom refuses => rfl

def handed : Journal σ where
  holds records world := world.received = records
  takes _ := True

theorem follows_handed (present : runner.recorder ≠ .absent)
    (polite : runner.recorder.Polite) :
    (handed : Journal σ).Follows runner where
  polite := polite
  telling := (Frame.keeping_admitsTelling fun _ _ _ _ _ => rfl).weaken
    fun same _ held => Eq.trans same held
  delays := (Frame.keeping_admitsDelays fun _ _ _ _ => rfl).weaken
    fun same _ held => Eq.trans same held
  reply event asked world _ held :=
    Eq.trans (Frame.keeping_reply (fun _ _ _ _ => rfl) event asked world) held
  record records new world created _ held := by
    have received :=
      Runner.received_of_record runner new.flowName new.baseUrl
        new.passed new.failed
        new.total new.duration world
    rw [← created, handed_of_present present] at received
    exact received.trans (congrArg (· ++ [new]) held)

theorem followedBy_handed {job : Job σ}
    (present : job.runner.recorder ≠ .absent)
    (polite : job.runner.recorder.Polite)
    (untouched : ∀ change, job.request = .meanwhile change →
      ∀ world, (change world).received = world.received) :
    job.FollowedBy handed where
  follows := follows_handed present polite
  spares directory _ label time data world records held := by
    unfold writeFile
    split <;> exact held
  meanwhile change asked world records held :=
    (untouched change asked world).trans held

/-! ## What is given back -/

theorem mem_of_begun {jobs : List (Job σ)} {world start : World σ} {job : Job σ}
    (started : (job, start) ∈ begun jobs world) : job ∈ jobs := by
  induction jobs generalizing world with
  | nil => cases started
  | cons first jobs induction =>
      rcases List.mem_cons.mp started with here | later
      · cases here
        exact List.mem_cons_self
      · exact List.mem_cons_of_mem _ (induction later)

theorem accounts_of_undertakings {job : Job σ}
    (polite : job.runner.recorder.Polite) {world : World σ}
    {undertaking : Undertaking σ}
    (among : undertaking ∈ job.undertakings world) : undertaking.Accounts := by
  obtain ⟨runner, driver, request⟩ := job
  cases request with
  | run options source =>
      obtain ⟨output, ran⟩ :=
        Runner.run_eq_printed runner driver options source world
      cases List.mem_singleton.mp among
      simp only [ofTurn, Turn.take, ran]
      exact accounts_of_runSource rfl rfl
  | runAll options sources =>
      obtain ⟨turn, taken, rfl⟩ := List.mem_map.mp among
      obtain ⟨source, before, rfl⟩ := Turn.mem_all taken
      exact accounts_of_runSource rfl rfl
  | smoke url timeout headless =>
      cases List.mem_singleton.mp among
      refine ⟨_, rfl, fun final same => ?_⟩
      obtain ⟨_, _, -, course⟩ := Runner.smoke_eq polite rfl
      rcases course with ⟨fault, failed, -⟩ | ⟨ended, _, _, result, url, -⟩
      · cases failed.symm.trans same
      · cases result.symm.trans same
        exact url
  | meanwhile change => cases among

/-- What a job gives back are the results that were completed. A batch that is
asked to stop loses those of the turns before. -/
theorem completed_of_gives (job : Job σ) (world : World σ) :
    match job.gives world with
    | .ok results => (job.undertakings world).filterMap completed? = results
    | .error _ => (job.undertakings world).filterMap completed? = [] ∨
        ∃ options sources, job.request = .runAll options sources := by
  obtain ⟨runner, driver, request⟩ := job
  cases request with
  | run options source =>
      simp only [gives, undertakings, ofTurn, Turn.take]
      rcases (runner.run driver options source world).1 with fault | result
      · exact .inl rfl
      · rfl
  | runAll options sources =>
      let turns :=
        Turn.all (runner.runSource driver options) options sources world
      have results : (turns.map (ofTurn options)).filterMap completed? =
          (turns.filterMap Turn.result?).map .flow := by
        rw [List.filterMap_map, List.map_filterMap]
        exact List.filterMap_congr fun turn _ => completed?_ofTurn options turn
      obtain ⟨output, ran⟩ :=
        Runner.runAll_eq_printed runner driver options sources world
      rw [Runner.runEach_eq_turns] at ran
      simp only [gives, undertakings, ran]
      rcases came : Turn.comeTo (Turn.halt? (runner.runSource driver options)
        options sources world) turns .empty with fault | batch
      · exact .inr ⟨options, sources, rfl⟩
      · obtain ⟨-, rfl⟩ := Turn.eq_of_comeTo came
        rw [Turn.foldl_addTo]
        exact results
  | smoke url timeout headless =>
      simp only [gives, undertakings]
      rcases (runner.smoke driver url timeout headless world).1
        with fault | result
      · exact .inl rfl
      · rfl
  | meanwhile change => rfl

/-- A recorder is handed one record for each run and each smoke test that was
completed on its runners, in order, and none for those that failed. What is
completed is what the jobs give back: a result each, and for a batch all of its
results. The records tell the name, the base address and the numbers of the
results, and from that base address the flows have gone to their targets. -/
theorem jobs_record_completed (present : recorder ≠ .absent)
    (polite : recorder.Polite) {jobs : List (Job σ)}
    (recording : ∀ job ∈ jobs, job.runner.recorder = recorder)
    (untouched : ∀ job ∈ jobs, ∀ change, job.request = .meanwhile change →
      ∀ world, (change world).received = world.received)
    (world : World σ) :
    (jobs.foldl serve world).received =
        world.received ++ (allUndertakings jobs world).filterMap record? ∧
      (∀ undertaking ∈ allUndertakings jobs world, undertaking.Accounts) ∧
      (∀ start ∈ begun jobs world,
        match start.1.gives start.2 with
        | .ok results =>
            (start.1.undertakings start.2).filterMap completed? = results
        | .error _ => (start.1.undertakings start.2).filterMap completed? = [] ∨
            ∃ options sources, start.1.request = .runAll options sources) ∧
      ∀ (page : SmokeResult) (time : DateTime),
        let record := (Completed.page page).recordAt time
        record.passed + record.failed = 1 ∧ record.total = 1 ∧
          (record.passed = 1 ↔ page.success = true) := by
  have followed (job : Job σ) (among : job ∈ jobs) : job.FollowedBy handed :=
    followedBy_handed (recording job among ▸ present)
      (recording job among ▸ polite)
      (untouched job among)
  refine ⟨holds_serveAll followed (fun _ _ => trivial) rfl, ?_,
    fun start _ => completed_of_gives start.1 start.2, fun page time => ?_⟩
  · intro undertaking among
    obtain ⟨⟨job, start⟩, started, here⟩ := List.mem_flatMap.mp among
    have same := recording job (mem_of_begun started)
    exact accounts_of_undertakings (same ▸ polite) here
  · cases success : page.success <;> simp [Completed.recordAt, success]

/-- A flow that navigates, to a target that is not absolute. -/
private def login : Flow where
  name := "Login"
  baseUrl := some "https://example.org"
  description := none
  steps := [⟨.navigate "/login", none, []⟩]

/-- A run is recorded. The missing file of a batch is not, but the flow behind
it is. -/
theorem jobs_record_completed_login :
    let runner : Runner := ⟨.rehearsal, .custom fun _ _ => none, .off⟩
    let options := { RunOptions.none with json := true }
    let jobs : List (Job _) :=
      [⟨runner, Script.plain.driver, .run options (.flow login)⟩,
        ⟨runner, Script.plain.driver,
          .runAll options [.file "missing", .flow login]⟩]
    let world := World.rehearsal .plain ⟨[], []⟩
    (jobs.foldl serve world).received.map
        (fun record => (record.flowName, record.baseUrl, record.passed,
          record.failed)) =
      [("Login", "https://example.org", 1, 0),
        ("Login", "https://example.org", 1, 0)] := by
  intro runner options jobs world
  have records : ((allUndertakings jobs world).filterMap record?).map
      (fun record => (record.flowName, record.baseUrl, record.passed,
          record.failed)) =
        [("Login", "https://example.org", 1, 0),
          ("Login", "https://example.org", 1, 0)] := by
    decide +kernel
  have present : runner.recorder ≠ .absent := by
    rintro ⟨⟩
  have polite : runner.recorder.Polite := by
    rintro _ _ _ ⟨⟩
  have recording : ∀ job ∈ jobs, job.runner.recorder = runner.recorder := by
    simp [jobs]
  have untouched : ∀ job ∈ jobs, ∀ change, job.request = .meanwhile change →
      ∀ world, (change world).received = world.received := by
    simp [jobs]
  obtain ⟨received, -⟩ :=
    jobs_record_completed present polite recording untouched world
  rw [received]
  exact records

end Job

end PageFlow
