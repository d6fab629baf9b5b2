import Mathlib.Data.Nat.Cast.Order.Ring
import PageFlow.Proofs.Ledger
import PageFlow.Proofs.Timestamps
import PageFlow.Proofs.Undertakings

/-!
# The latest runs

A history in which runs and smoke tests are recorded lists them from the latest
one on. Between two records the program makes directories, takes screenshots and
writes its log, which may happen before the file of the history is there. As
long as none of this is in its way, the history keeps every record.
-/

namespace PageFlow

open Act FileSystem

variable {σ : Type} {workdir : Place} {path : Path} {runner : Runner}

theorem Runner.allows_store {frame : Frame σ} (admits : frame.AdmitsLogging)
    {record : RunRecord} {world : World σ}
    (ready : world.log.threshold.isSome) :
    frame.allows
        { world with files := (History.record world.files path record.entry).1 }
      (store path record world).2 := by
  obtain ⟨storing, telling, stored, done⟩ :
      ∃ (storing : Act σ Nat) (telling : Nat → String),
      (storing world).2 =
        { world with files :=
          (History.record world.files path record.entry).1 } ∧
      store path record world = (storing >>= fun id =>
        log (.named "stepflow.store.history") .debug (telling id)) world := by
    refine ⟨_, _, ?_, bind_of_ok (logger_of_isSome ready _)⟩
    split <;> rename_i recorded <;> rw [recorded]
  rw [done, ← stored]
  exact allows_of_bind storing (fun id => admits.log _ _ _) world

/-- The log is not on the way to the file of a history, and some records are
kept there, unless a directory stands in its place. -/
structure World.Remembers (workdir : Place) (path : Path)
    (records : List RunRecord) (world : World σ) : Prop where
  logs : world.LogsAside (OnWay workdir path) workdir
  opens : world.files.at? (placeOf workdir path) ≠ some .directory →
    ∃ opened, History.connect world.files path =
      (opened, .ok (placeOf workdir path, .of (records.map RunRecord.entry)))

/-- The records in the file of a history. -/
def Journal.history (workdir : Place) (path : Path) : Journal σ where
  holds := World.Remembers workdir path
  takes record := record.entry.Storable

namespace Journal

theorem history_allowsAside :
    (history workdir path : Journal σ).frame.AllowsAside (OnWay workdir path)
      workdir where
  change file threshold _ widened := by
    intro records remembers
    have wide := widened remembers.logs
    refine ⟨remembers.logs.of_log file threshold wide.workdir, fun stays => ?_⟩
    obtain ⟨opened, connected⟩ :=
      remembers.opens fun blocked => stays (wide.nodes _ _ (.inl rfl) blocked)
    rw [← remembers.logs.home] at wide
    exact History.connect_later connected wide stays
  setUpLog := by
    intro world records remembers
    rw [setUpLog_of_isSome remembers.logs.ready]
    exact remembers

theorem remembers_submit {record : RunRecord} (storable : record.entry.Storable)
    {records : List RunRecord} {world : World σ}
    (remembers : world.Remembers workdir path records) :
    (Runner.submit (.history path) record world).2.Remembers workdir path
      (records ++ [record]) := by
  let handed : World σ := { world with received := world.received ++ [record] }
  let stored : World σ :=
    { handed with files := (History.record world.files path record.entry).1 }
  have extended : Extends (fun _ => False) world.files stored.files :=
    extends_record id _
  have logs : stored.LogsAside (OnWay workdir path) workdir :=
    remembers.logs.of_log rfl rfl extended.workdir
  have kept : stored.Remembers workdir path (records ++ [record]) := by
    refine ⟨logs, fun stays => ?_⟩
    obtain ⟨opened, connected⟩ :=
      remembers.opens fun blocked =>
        stays (extended.nodes _ _ (.inl rfl) blocked)
    rw [List.map_append, List.map_singleton]
    exact History.connect_record connected storable
  have told : (history workdir path : Journal σ).frame.allows stored
      (Runner.submit (.history path) record world).2 := by
    rw [Runner.submit, bind_of_ok (change_apply _ world)]
    exact Runner.allows_store history_allowsAside.admitsTelling.toAdmitsLogging
      remembers.logs.ready
  exact told _ kept

theorem follows_history (recording : runner.recorder = .history path) :
    (history workdir path : Journal σ).Follows runner where
  polite := recording ▸ trivial
  telling := history_allowsAside.admitsTelling
  delays := history_allowsAside.admitsDelays
  reply := history_allowsAside.reply
  record := by
    intro records new world created storable remembers
    have submitted := remembers_submit storable remembers
    have told :=
      Runner.allows_record
        (history_allowsAside : (history workdir path).frame.AllowsAside _
          _).admitsTelling.toAdmitsLogging
        runner created
    rw [recording] at told
    exact told _ submitted

theorem history_spares {directory : Path}
    (aside : ∀ label time,
      ¬ OnWay workdir path
        (placeOf workdir (Screenshot.path directory label time))) :
    (history workdir path : Journal σ).Spares directory :=
  fun label time data => history_allowsAside.writeFile (aside label time) data

end Journal

theorem createdAt_of_record? {undertaking : Undertaking σ} {record : RunRecord}
    (found : undertaking.record? = some record) :
    record.createdAt = Calendar.stampText
      (Calendar.ofMoment undertaking.after.moment) := by
  obtain ⟨completed, -, rfl⟩ := Option.map_eq_some_iff.mp found
  cases completed <;> rfl

theorem timely_records {undertakings : List (Undertaking σ)}
    (clock : undertakings.Pairwise fun a b => a.after.moment ≤ b.after.moment)
    (known : ∀ undertaking ∈ undertakings,
      Calendar.Known undertaking.after.moment) :
    ((undertakings.filterMap Undertaking.record?).map RunRecord.entry).Pairwise
      fun a b =>
      a.createdAt = b.createdAt ∨ a.createdAt < b.createdAt := by
  rw [List.pairwise_map]
  have ordered :=
    (List.Pairwise.and_mem.mp clock).imp fun ⟨first, second, atMost⟩ =>
    Calendar.stampText_mono (known _ first) (known _ second) atMost
  refine List.Pairwise.filterMap _
    (fun a b atMost record found other found' => ?_) ordered
  rw [← createdAt_of_record? found, ← createdAt_of_record? found'] at atMost
  exact atMost.imp (congrArg some) Option.some_lt_some.mpr

namespace Job

/-- A job that records in a history, and else does nothing on the way to its
file. -/
structure RecordsIn (workdir : Place) (path : Path) (job : Job σ) : Prop where
  recorder : job.runner.recorder = .history path
  screenshots : ∀ directory, job.directory? = some directory →
    ∀ label time,
      ¬ OnWay workdir path
        (placeOf workdir (Screenshot.path directory label time))
  meanwhile : ∀ change, job.request = .meanwhile change →
    ∀ world, (Journal.history workdir path).frame.allows world (change world)

theorem RecordsIn.followedBy {job : Job σ}
    (recordsIn : job.RecordsIn workdir path) :
    job.FollowedBy (Journal.history workdir path) where
  follows := Journal.follows_history recordsIn.recorder
  spares directory found :=
    Journal.history_spares (recordsIn.screenshots directory found)
  meanwhile := by
    intro change asked world records remembers
    have changed := recordsIn.meanwhile change asked world records remembers
    exact ⟨changed.logs.of_log rfl rfl rfl, changed.opens⟩

/-- Runs and smoke tests that are recorded in one history, which is empty at
first and may be missing, are listed by it from the latest one on. A count that
does not fit into 64 bits is refused. -/
theorem history_lists_latest {jobs : List (Job σ)} {world : World σ}
    {opened : FileSystem} {place : Place}
    (recording : ∀ job ∈ jobs, job.RecordsIn workdir path)
    (fresh : History.connect world.files path = (opened, .ok (place, .empty)))
    (logs : world.LogsAside (OnWay workdir path) workdir)
    (file : (jobs.foldl serve world).files.at? place ≠ some .directory)
    (clock : (allUndertakings jobs world).Pairwise fun a b =>
      a.after.moment ≤ b.after.moment)
    (known : ∀ undertaking ∈ allUndertakings jobs world,
      Calendar.Known undertaking.after.moment)
    (storable :
      ∀ record ∈ (allUndertakings jobs world).filterMap Undertaking.record?,
      record.entry.Storable)
    (count : Nat) :
    let records := (allUndertakings jobs world).filterMap Undertaking.record?
    (History.recent (jobs.foldl serve world).files path count).2 =
      if count < 9223372036854775808 then
        .ok ((History.numbered (records.map RunRecord.entry)).reverse.take
          count)
      else .error (.refused .integerSize) := by
  intro records
  have home : place = placeOf workdir path :=
    logs.home ▸ History.place_of_connect fresh
  have start : (Journal.history workdir path).holds [] world :=
    ⟨logs, fun _ => ⟨opened, home ▸ fresh⟩⟩
  have remembers : (jobs.foldl serve world).Remembers workdir path records :=
    holds_serveAll (fun job among => (recording job among).followedBy)
      storable start
  obtain ⟨reopened, connected⟩ := remembers.opens (home ▸ file)
  have lists := History.lists_reverse (timely_records clock known)
  rw [History.recent_of_connect connected lists]
  norm_cast

/-- A file that is missing at first. -/
private def diary : Path :=
  ⟨.root, ["diary"]⟩

private def named (name : String) : Flow where
  name := name
  baseUrl := none
  description := none
  steps := []

/-- Two flows are run, and in between a second goes by. -/
private def week : List (Job (List (ScriptedFailure × Nat))) :=
  let runner : Runner := ⟨.rehearsal, .history diary, .off⟩
  let options := { RunOptions.none with json := true }
  [⟨runner, Script.plain.driver, .run options (.flow (named "Login"))⟩,
    ⟨runner, Script.plain.driver,
      .meanwhile fun world => { world with clock := world.clock + 1000000 }⟩,
    ⟨runner, Script.plain.driver, .run options (.flow (named "Search"))⟩]

private theorem recordsIn_week : ∀ job ∈ week, job.RecordsIn [] diary := by
  have aside (label : String) (time : DateTime) :
      ¬ OnWay [] diary
        (placeOf [] (Screenshot.path ⟨.root, []⟩ label time)) := by
    rw [placeOf_screenshot]
    rintro ⟨names, before, leads⟩
    cases names with
    | nil => cases leads
    | cons first rest =>
        obtain ⟨rfl, more⟩ := List.cons_prefix_cons.mp before
        cases List.prefix_nil.mp more
        exact Screenshot.fileName_ne (by decide)
          (List.singleton_inj.mp leads).symm
  intro job among
  simp only [week, List.mem_cons, List.not_mem_nil, or_false] at among
  rcases among with rfl | rfl | rfl
  · exact ⟨rfl, fun directory found => Option.some.inj found ▸ aside, nofun⟩
  · refine ⟨rfl, nofun, fun change asked world records remembers => ?_⟩
    cases asked
    exact ⟨remembers.logs.of_log rfl rfl rfl, remembers.opens⟩
  · exact ⟨rfl, fun directory found => Option.some.inj found ▸ aside, nofun⟩

/-- Of two runs the later one is listed. -/
theorem history_lists_latest_search :
    ∃ rows,
        (History.recent
          (week.foldl serve (World.rehearsal .plain ⟨[], []⟩)).files
          diary 1).2 =
        .ok rows ∧ rows.map (·.entry.flowName) = [some "Search"] := by
  have fresh : History.connect ⟨[], []⟩ diary =
      (⟨[(["diary"], .history .empty)], []⟩, .ok (["diary"], .empty)) := by
    rfl
  have logs : (World.rehearsal .plain ⟨[], []⟩).LogsAside (OnWay [] diary) [] :=
    ⟨rfl, rfl, nofun⟩
  have file :
      (week.foldl serve (World.rehearsal .plain ⟨[], []⟩)).files.at? ["diary"] ≠
      some .directory := by
    intro blocked
    have standing :
        ((week.foldl serve (World.rehearsal .plain ⟨[], []⟩)).files.at?
          ["diary"]).any
        (fun node => node matches .history _) := by
      decide +kernel
    rw [blocked] at standing
    cases standing
  have latest :=
    history_lists_latest recordsIn_week fresh logs file (by decide +kernel)
      (by decide +kernel) (by decide +kernel) 1
  refine ⟨_, latest.trans (if_pos (by decide)), ?_⟩
  decide +kernel

/-- After a run a count that does not fit into 64 bits gives no rows. -/
theorem history_refuses_count :
    ¬ ∃ rows,
      (History.recent (week.foldl serve (World.rehearsal .plain ⟨[], []⟩)).files
        diary 9223372036854775808).2 = .ok rows := by
  have refused :
      (History.recent (week.foldl serve (World.rehearsal .plain ⟨[], []⟩)).files
        diary 9223372036854775808).2.toOption.isNone := by
    decide +kernel
  rintro ⟨rows, listed⟩
  rw [listed] at refused
  cases refused

end Job

end PageFlow
