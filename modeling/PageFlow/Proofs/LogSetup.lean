import PageFlow.Proofs.Frame
import PageFlow.Runner

/-!
# The log during runs

A runner sets the log up when it is made. From then on, asking for a logger
changes nothing. Setting the log up has nothing to do with what is bound.
-/

namespace PageFlow

open Act

variable {σ : Type}

theorem Act.setUpLog_of_isSome {world : World σ}
    (ready : world.log.threshold.isSome) :
    setUpLog world = (.ok (), world) := by
  have later : ¬ world.log.threshold.isNone := by
    simpa [Option.isSome_iff_ne_none] using ready
  rw [setUpLog, ask_bind, if_neg later]
  rfl

theorem Act.logger_of_isSome {world : World σ}
    (ready : world.log.threshold.isSome) (name : String) :
    logger name world = (.ok (Logger.named name), world) := by
  rw [logger, bind_of_ok (setUpLog_of_isSome ready)]
  rfl

theorem Act.isSome_of_setUpLog {world begun : World σ}
    (done : setUpLog world = (.ok (), begun)) : begun.log.threshold.isSome := by
  rw [setUpLog, ask_bind] at done
  split at done
  · obtain ⟨chosen, between, _, rest⟩ := bind_eq_ok.mp done
    split at rest
    · obtain ⟨_, last, _, changed⟩ := bind_eq_ok.mp rest
      cases changed
      rfl
    · cases rest
      rfl
  · rename_i ready
    cases done
    simpa [Option.isSome_iff_ne_none] using ready

theorem Runner.isSome_of_make {settings : Option Settings}
    {recorder : Option Recorder} {pacing : Option Pacing}
    {world ready : World σ} {runner : Runner}
    (made : Runner.make settings recorder pacing world = (.ok runner, ready)) :
    ready.log.threshold.isSome := by
  unfold Runner.make at made
  have rest : ∃ between built,
      (setUpLog >>= fun _ => pure built : Act σ Runner) between =
      (.ok runner, ready) := by
    cases settings with
    | some settings => exact ⟨world, _, made⟩
    | none =>
        obtain ⟨_, between, _, rest⟩ := bind_eq_ok.mp made
        exact ⟨between, _, rest⟩
  obtain ⟨between, _, rest⟩ := rest
  obtain ⟨_, last, done, rest⟩ := bind_eq_ok.mp rest
  cases rest
  exact isSome_of_setUpLog done

/-! ## What is bound -/

theorem Act.log_settings :
    (settings : Act σ Settings).Within (.keeping World.log) := by
  intro world
  unfold settings
  split
  · rfl
  · split <;> rfl

theorem Act.log_ensureDirectory (path : Path) :
    (ensureDirectory path).Within (.keeping (World.log : World σ → Log)) := by
  intro world
  unfold ensureDirectory
  split <;> rfl

theorem Act.log_of_setUpLog {world after : World σ}
    (done : setUpLog world = (.ok (), after)) :
    after.log.bound = world.log.bound ∧ after.log.records = world.log.records ∧
      (world.log.threshold.isSome →
        after.log.threshold = world.log.threshold) := by
  by_cases ready : world.log.threshold.isSome
  · rw [setUpLog_of_isSome ready] at done
    cases done
    exact ⟨rfl, rfl, fun _ => rfl⟩
  have setting : (setUpLog : Act σ Unit).Within
      (.keeping fun world => (world.log.bound, world.log.records)) := by
    refine within_bind (within_ask _) fun log => ?_
    split
    · refine within_bind (fun world => ?_) fun chosen => ?_
      · exact congrArg (fun log : Log => (log.bound, log.records))
          (log_settings world)
      · split
        · refine within_bind (fun world => ?_) fun _ _ => rfl
          exact congrArg (fun log : Log => (log.bound, log.records))
            (log_ensureDirectory _ world)
        · exact fun _ => rfl
    · exact within_pure _
  have kept := setting.allows done
  exact ⟨congrArg Prod.fst kept, congrArg Prod.snd kept,
    fun set => absurd set ready⟩

/-- The world with other values bound. -/
def World.rebound (world : World σ) (context : LogContext) : World σ :=
  { world with log := { world.log with bound := context } }

theorem Act.settings_rebound (world : World σ) (context : LogContext) :
    settings (world.rebound context) =
      ((settings world).1, (settings world).2.rebound context) := by
  unfold settings World.rebound
  dsimp only
  split
  · rfl
  · split <;> rfl

theorem Act.ensureDirectory_rebound (path : Path) (world : World σ)
    (context : LogContext) :
    ensureDirectory path (world.rebound context) =
      ((ensureDirectory path world).1,
        (ensureDirectory path world).2.rebound context) := by
  unfold ensureDirectory World.rebound
  dsimp only
  split <;> rfl

/-- Whether the log can be set up does not depend on what is bound. -/
theorem Act.setUpLog_rebound (world : World σ) (context : LogContext) :
    (setUpLog (world.rebound context)).1 = (setUpLog world).1 := by
  have same : (world.rebound context).log.threshold = world.log.threshold := rfl
  rw [setUpLog, ask_bind, ask_bind, same]
  split
  · rcases chosen : settings world with ⟨fault | s, between⟩
    · rw [bind_of_error chosen,
        bind_of_error (by rw [settings_rebound, chosen])]
    rw [bind_of_ok chosen, bind_of_ok (by rw [settings_rebound, chosen])]
    split
    · rcases made : ensureDirectory s.logFile.parent between
        with ⟨fault | _, last⟩
      · rw [bind_of_error made,
          bind_of_error (by rw [ensureDirectory_rebound, made])]
      · rw [bind_of_ok made, bind_of_ok (by rw [ensureDirectory_rebound, made])]
        rfl
    · rfl
  · rfl

end PageFlow
