import PageFlow.Log.Line
import PageFlow.World

/-!
# Writing to the log

The log is set up when the first logger is asked for: the settings choose the
level and whether records go to a file as well.
-/

namespace PageFlow.Act

variable {σ : Type}

/-- Sets the log up, unless that was done before. -/
def setUpLog : Act σ Unit := do
  let log ← ask (·.log)
  if log.threshold.isNone then
    let s ← settings
    if s.logToFile then
      ensureDirectory s.logFile.parent
    change fun world => { world with log := { world.log with
      threshold := some s.logLevel.rank
      file := if s.logToFile then some s.logFile else none } }

def logger (name : String) : Act σ Logger := do
  setUpLog
  return Logger.named name

def withContext (logger : Logger) (values : LogContext) : Act σ Logger :=
  ask fun world => world.log.withContext logger values

def setLevel (rank : Nat) : Act σ Unit := do
  setUpLog
  change fun world =>
    { world with log := { world.log with threshold := some rank } }

/-- The files after a line was added to the log file. A line that cannot be
written is lost. -/
def withLine (files : FileSystem) (file : Option Path) (line : String) :
    FileSystem :=
  match file with
  | none => files
  | some path =>
    match files.append path (Text.encodeUtf8 (line ++ "\n")) with
    | .ok written => written
    | .error _ => files

/-- Writes a record, if the log admits its level. -/
def log (logger : Logger) (level : LogLevel) (message : String) : Act σ Unit :=
  change fun world =>
    if world.log.admits level then
      let record := world.log.recordOf logger level message
      let line := Log.line (Calendar.ofMoment world.moment) record
      { world with
        log := world.log.add record
        files := withLine world.files world.log.file line }
    else world

end PageFlow.Act
