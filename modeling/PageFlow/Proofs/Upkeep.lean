import PageFlow.Proofs.Frame
import PageFlow.Proofs.LogSetup
import PageFlow.Proofs.Ways

/-!
# What runs leave in place

Runs write screenshots, a history and a log. As long as none of these goes to a
place that is kept, a run only extends the file system, and reads the same there
as before.
-/

namespace PageFlow

open Act FileSystem

variable {σ : Type} {kept : Place → Prop} {workdir : Place} {directory : Path}
  {recorder : Recorder}

theorem Screenshot.fileName_ne {label name : String} {time : DateTime}
    (other : name.toList.getLast? ≠ some 'g') : fileName label time ≠ name := by
  rintro rfl
  exact other (by simp [fileName, List.getLast?_cons, List.getLast?_append])

theorem placeOf_screenshot (workdir : Place) (label : String)
    (time : DateTime) :
    placeOf workdir (Screenshot.path ⟨.root, []⟩ label time) =
      [Screenshot.fileName label time] := by
  have name : Screenshot.fileName label time ≠ ".." :=
    Screenshot.fileName_ne (by decide)
  change destination [] [Screenshot.fileName label time] = _
  rw [destination, if_neg name]
  rfl

/-- The log was set up, and its file is not at a place that is kept. -/
structure World.LogsAside (kept : Place → Prop) (workdir : Place)
    (world : World σ) : Prop where
  home : world.files.workdir = workdir
  ready : world.log.threshold.isSome
  aside : ∀ path, world.log.file = some path → ¬ kept (placeOf workdir path)

/-- Neither the screenshots in a directory nor the history of a recorder are put
where something is kept. -/
structure WritesAside (kept : Place → Prop) (workdir : Place) (directory : Path)
    (recorder : Recorder) : Prop where
  screenshots : ∀ label time,
    ¬ kept (placeOf workdir (Screenshot.path directory label time))
  history : ∀ path, recorder = .history path → ¬ kept (placeOf workdir path)

theorem Act.widens_withLine {files : FileSystem} {file : Option Path}
    (aside : ∀ path, file = some path → ¬ kept (placeOf files.workdir path))
    (line : String) :
    Widens kept files (withLine files file line) := by
  unfold withLine
  split
  · exact .refl _
  · split
    · exact widens_append (aside _ rfl) ‹_›
    · exact .refl _

theorem Act.extends_withLine {files : FileSystem} {file : Option Path}
    (aside : ∀ path, file = some path → ¬ kept (placeOf files.workdir path))
    (line : String) :
    Extends kept files (withLine files file line) :=
  (widens_withLine aside line).toExtends

theorem Act.files_ensureDirectory (path : Path) (world : World σ) :
    (Act.ensureDirectory path world).2 =
      { world with files := (world.files.ensureDirectory path).1 } := by
  unfold Act.ensureDirectory
  rcases world.files.ensureDirectory path with ⟨files, fault | done⟩ <;> rfl

/-! ## What is done aside -/

/-- A frame allows what does not change where the log goes, as long as only
directories are made at the places that are kept. -/
structure Frame.AllowsAside (frame : Frame σ) (kept : Place → Prop)
    (workdir : Place) : Prop where
  change : ∀ {before after : World σ}, after.log.file = before.log.file →
    after.log.threshold = before.log.threshold →
    after.environment = before.environment →
    (before.LogsAside kept workdir → Widens kept before.files after.files) →
    frame.allows before after
  setUpLog : Act.setUpLog.Within frame

namespace Frame.AllowsAside

variable {frame : Frame σ}

theorem admitsTelling (allows : frame.AllowsAside kept workdir) :
    frame.AdmitsTelling where
  makeDirectory path world := by
    rw [files_ensureDirectory]
    exact allows.change rfl rfl rfl fun _ => widens_ensureDirectory _ _
  setUpLog := allows.setUpLog
  log logger level message world := by
    simp only [Act.log, change_apply]
    split
    · refine allows.change rfl rfl rfl fun aside =>
        widens_withLine (fun path there => ?_) _
      rw [aside.home]
      exact aside.aside path there
    · exact frame.refl world
  print text world := allows.change rfl rfl rfl fun _ => .refl _

theorem reply {α : Type} (allows : frame.AllowsAside kept workdir)
    (event : SessionEvent) (ask : Int → σ → Reply σ α) :
    (Act.reply event ask).Within frame := by
  intro world
  rw [reply_eq]
  exact allows.change rfl rfl rfl fun _ => .refl _

theorem admitsDelays (allows : frame.AllowsAside kept workdir) :
    frame.AdmitsDelays where
  nap seconds world := by
    unfold Act.nap
    dsimp only
    split
    · exact allows.change rfl rfl rfl fun _ => .refl _
    · split <;> exact allows.change rfl rfl rfl fun _ => .refl _
  draw world := allows.change rfl rfl rfl fun _ => .refl _

theorem writeFile {path : Path} (allows : frame.AllowsAside kept workdir)
    (dropped : ¬ kept (placeOf workdir path)) (data : List UInt8) :
    (Act.writeFile path data).Within frame := by
  intro world
  unfold Act.writeFile
  split
  · refine allows.change rfl rfl rfl fun aside => ?_
    rw [← aside.home] at dropped
    exact widens_write dropped ‹_›
  · exact frame.refl world

theorem admitsSteps (allows : frame.AllowsAside kept workdir)
    (driver : Driver σ)
    (screenshots : ∀ label time,
      ¬ kept (placeOf workdir (Screenshot.path directory label time))) :
    frame.AdmitsSteps driver directory where
  toAdmitsLogging := allows.admitsTelling.toAdmitsLogging
  toAdmitsDelays := allows.admitsDelays
  perform call stays := by
    refine within_perform (allows.reply _ _) ?_
    rintro path data rfl
    obtain ⟨label, time, rfl⟩ := stays
    exact allows.writeFile (screenshots label time) data

theorem admitsRuns (allows : frame.AllowsAside kept workdir) (driver : Driver σ)
    (screenshots : ∀ label time,
      ¬ kept (placeOf workdir (Screenshot.path directory label time)))
    (submit : ∀ record, (Runner.submit recorder record).Within frame) :
    frame.AdmitsRuns driver recorder directory where
  toAdmitsSteps := allows.admitsSteps driver screenshots
  launch _ := allows.reply _ _
  release := allows.reply _ _
  submit := submit
  print := allows.admitsTelling.print

end Frame.AllowsAside

/-! ## Upkeep -/

/-- While the log is written aside, the files are only extended. -/
def Frame.upkeep (kept : Place → Prop) (workdir : Place) : Frame σ where
  allows before after := before.LogsAside kept workdir →
    after.LogsAside kept workdir ∧ Extends kept before.files after.files ∧
      after.environment = before.environment
  refl world aside := ⟨aside, .refl _, rfl⟩
  trans := by
    intro first second third earlier later aside
    obtain ⟨aside, extended, environment⟩ := earlier aside
    obtain ⟨last, extended', environment'⟩ := later aside
    exact ⟨last, extended.trans extended', environment'.trans environment⟩

/-- Where the log goes is not changed by what leaves its settings and the
working directory alone. -/
theorem World.LogsAside.of_log {before after : World σ}
    (aside : before.LogsAside kept workdir)
    (file : after.log.file = before.log.file)
    (threshold : after.log.threshold = before.log.threshold)
    (home : after.files.workdir = before.files.workdir) :
    after.LogsAside kept workdir where
  home := home.trans aside.home
  ready := threshold ▸ aside.ready
  aside := file ▸ aside.aside

private theorem upkeep_of_files {before after : World σ}
    (log : after.log.file = before.log.file)
    (threshold : after.log.threshold = before.log.threshold)
    (environment : after.environment = before.environment)
    (extended : before.LogsAside kept workdir →
      Extends kept before.files after.files) :
    (Frame.upkeep kept workdir).allows before after :=
  fun aside => ⟨aside.of_log log threshold (extended aside).workdir,
    extended aside, environment⟩

theorem Frame.upkeep_allowsAside :
    (Frame.upkeep kept workdir : Frame σ).AllowsAside kept workdir where
  change log threshold environment widened :=
    upkeep_of_files log threshold environment fun aside =>
      (widened aside).toExtends
  setUpLog world aside := by
    rw [setUpLog_of_isSome aside.ready]
    exact ⟨aside, .refl _, rfl⟩

theorem Frame.upkeep_admitsTelling :
    (Frame.upkeep kept workdir : Frame σ).AdmitsTelling :=
  upkeep_allowsAside.admitsTelling

theorem Frame.upkeep_admitsSteps (driver : Driver σ)
    (screenshots : ∀ label time,
      ¬ kept (placeOf workdir (Screenshot.path directory label time))) :
    (Frame.upkeep kept workdir).AdmitsSteps driver directory :=
  upkeep_allowsAside.admitsSteps driver screenshots

/-- Running flows extends the files, and leaves alone what is kept. -/
theorem Frame.upkeep_admitsRuns (driver : Driver σ)
    (apart : WritesAside kept workdir directory recorder) :
    (Frame.upkeep kept workdir).AdmitsRuns driver recorder directory := by
  refine upkeep_allowsAside.admitsRuns driver apart.screenshots ?_
  refine Runner.within_submit upkeep_admitsTelling.toAdmitsLogging
    (fun world record => upkeep_of_files rfl rfl rfl fun _ => .refl _)
    recorder ?_
  intro path world record keeps
  refine upkeep_of_files rfl rfl rfl fun aside => ?_
  have dropped := apart.history path keeps
  rw [← aside.home] at dropped
  exact extends_record dropped _

end PageFlow
