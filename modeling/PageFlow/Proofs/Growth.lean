import PageFlow.Proofs.Likeness

/-!
# Growth

A run takes nothing away: directories stay, and the events of sessions are noted
one behind the other. So whatever is known of the files and events in the end
says something of those on the way.
-/

namespace PageFlow

open Act FileSystem

variable {σ : Type}

/-- Directories stay, and events are added behind the others. -/
def Frame.growing : Frame σ where
  allows before after := Extends (fun _ => False) before.files after.files ∧
    before.events <+: after.events
  refl _ := ⟨.refl _, List.prefix_rfl⟩
  trans first second := ⟨first.1.trans second.1, first.2.trans second.2⟩

theorem Act.within_growing_of_files {α : Type} {act : Act σ α}
    (extended : ∀ world,
      Extends (fun _ => False) world.files (act world).2.files)
    (events : act.Within (.keeping World.events)) : act.Within .growing := by
  intro world
  have same : (act world).2.events = world.events := events world
  exact ⟨extended world, same ▸ List.prefix_rfl⟩

theorem Frame.growing_admitsTelling :
    (Frame.growing : Frame σ).AdmitsTelling := by
  have keeping : (Frame.keeping (World.events : World σ → _)).AdmitsTelling :=
    Frame.keeping_admitsTelling fun _ _ _ _ _ => rfl
  have making (path : Path) :
      (Act.ensureDirectory path : Act σ Unit).Within .growing := by
    refine within_growing_of_files (fun world => ?_)
      (keeping.makeDirectory path)
    rw [files_ensureDirectory]
    exact extends_ensureDirectory _ _
  have choosing : (Act.settings : Act σ Settings).Within .growing := by
    intro world
    unfold Act.settings
    split
    · exact Frame.growing.refl world
    · split <;> exact Frame.growing.refl world
  refine ⟨⟨making, ?_, ?_⟩, fun text world => Frame.growing.refl world⟩
  · refine within_bind (within_ask _) fun log => ?_
    split
    · refine within_bind choosing fun chosen => ?_
      split
      · exact within_bind (making _) fun _ => Frame.growing.refl
      · exact Frame.growing.refl
    · exact within_pure _
  · intro logger level message
    refine within_growing_of_files (fun world => ?_) (keeping.log _ _ _)
    simp only [Act.log, change_apply]
    split
    · exact extends_withLine (fun _ _ => id) _
    · exact .refl _

theorem Act.within_reply_growing {α : Type} (event : SessionEvent)
    (asked : Int → σ → Reply σ α) :
    (reply event asked).Within .growing := by
  intro world
  rw [reply_eq]
  exact ⟨.refl _, List.prefix_append _ _⟩

theorem Act.within_writeFile_growing (path : Path) (data : List UInt8) :
    (writeFile path data : Act σ Unit).Within .growing := by
  intro world
  unfold writeFile
  split
  · exact ⟨(widens_write id ‹_›).toExtends, List.prefix_rfl⟩
  · exact Frame.growing.refl world

theorem Frame.growing_admitsRuns (driver : Driver σ) (recorder : Recorder)
    (directory : Path) :
    (Frame.growing : Frame σ).AdmitsRuns driver recorder directory where
  toAdmitsTelling := growing_admitsTelling
  nap seconds world := by
    unfold Act.nap
    dsimp only
    split
    · exact Frame.growing.refl world
    · split <;> exact Frame.growing.refl world
  draw := Frame.growing.refl
  perform call _ :=
    within_perform (within_reply_growing _ _) fun path data _ =>
      within_writeFile_growing path data
  launch headless := within_reply_growing _ _
  release := within_reply_growing _ _
  submit := Runner.within_submit growing_admitsTelling.toAdmitsLogging
    (fun world _ => Frame.growing.refl world) recorder
    fun _ _ _ _ => ⟨extends_record id _, List.prefix_rfl⟩

/-! ## Pictures -/

/-- The path of a screenshot that was asked for. -/
def SessionEvent.picture? : SessionEvent → Option Path
  | .called (.screenshot path) => some path
  | _ => none

/-- Every screenshot asked for since the first `known` events has a place in
some files. -/
def World.StoredIn (known : Nat) (files : FileSystem) (world : World σ) :
    Prop :=
  ∀ path ∈ (world.events.drop known).filterMap SessionEvent.picture?,
    (files.filePlace path).toOption.isSome

instance (known : Nat) (files : FileSystem) (world : World σ) :
    Decidable (world.StoredIn known files) :=
  inferInstanceAs
    (Decidable
      (∀ path ∈ (world.events.drop known).filterMap SessionEvent.picture?,
    (files.filePlace path).toOption.isSome))

/-- From this world on only more can come to stand than does in `files`, and
every screenshot since the first `known` events has a place there. -/
structure World.StoresIn (known : Nat) (files : FileSystem) (world : World σ) :
    Prop where
  extended : Extends (fun _ => False) world.files files
  stored : world.StoredIn known files

theorem World.StoresIn.trace {known : Nat} {files : FileSystem}
    {before after : World σ} (grown : Frame.growing.allows before after)
    (stores : after.StoresIn known files) :
    before.StoresIn known files where
  extended := grown.1.trans stores.extended
  stored path asked :=
    stores.stored path (((grown.2.sublist.drop known).filterMap _).subset asked)

theorem Frame.tracing_storesIn (driver : Driver σ) (recorder : Recorder)
    (directory : Path) (known : Nat) (files : FileSystem) :
    (Frame.tracing (World.StoresIn known files : World σ → Prop)).AdmitsRuns
        driver recorder
      directory := by
  have grows := Frame.growing_admitsRuns driver recorder directory
  have trace {before after : World σ}
      (grown : Frame.growing.allows before after) :
      (Frame.tracing (World.StoresIn known files)).allows before after :=
    fun stores => stores.trace grown
  exact {
    toAdmitsTelling := grows.toAdmitsTelling.weaken trace
    toAdmitsDelays := grows.toAdmitsDelays.weaken trace
    perform := fun call stays world => trace (grows.perform call stays world)
    launch := fun headless world => trace (grows.launch headless world)
    release := fun world => trace (grows.release world)
    submit := fun record world => trace (grows.submit record world) }

end PageFlow
