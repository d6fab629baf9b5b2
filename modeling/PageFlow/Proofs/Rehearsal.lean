import PageFlow.Session.Scripted
import PageFlow.World

/-!
# Rehearsals

A world in which a session is about to begin. Theorems about all worlds are
tried out here.
-/

namespace PageFlow

theorem FileSystem.ensureDirectory_root (files : FileSystem) :
    files.ensureDirectory ⟨.root, []⟩ = (files, .ok ()) :=
  rfl

/-- Settings without delays, history and log file. -/
def Settings.rehearsal : Settings where
  headless := true
  browser := .chromium
  viewportWidth := 1280
  viewportHeight := 720
  slowMotion := 0
  userAgent := none
  screenshotDir := ⟨.root, []⟩
  flowsDir := ⟨.root, []⟩
  navigationTimeout := 30000
  actionTimeout := 10000
  waitForTimeout := 5000
  smokeTimeout := 30000
  humanize := false
  clickDelay := ⟨0, 0, Nat.le_refl 0⟩
  keyDelay := ⟨0, 0, Nat.le_refl 0⟩
  scrollSettle := 0
  recordHistory := false
  historyFile := ⟨.root, ["history"]⟩
  logLevel := .critical
  logToFile := false
  logFile := ⟨.root, ["log"]⟩
  colorized := false

/-- The world before a session, with some files. The log is set up and keeps
nothing. -/
def World.before (session : σ) (files : FileSystem) : World σ where
  session := session
  events := []
  clock := 0
  epoch := 0
  random := fun _ => 0
  drawn := 0
  naps := []
  files := files
  environment := ⟨[]⟩
  settings := some .rehearsal
  log := { Log.start with threshold := some LogLevel.critical.rank }
  output := ""
  errors := ""
  received := []

/-- The world before a scripted session. -/
def World.rehearsal (script : Script) (files : FileSystem) :
    World (List (ScriptedFailure × Nat)) :=
  .before script.start files

end PageFlow
