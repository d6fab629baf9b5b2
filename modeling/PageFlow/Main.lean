import PageFlow.CommandLine
import PageFlow.History.Document
import PageFlow.Json.Reader
import PageFlow.Session.Rehearsal
import Std.Time.DateTime.Timestamp

/-!
# The program

Gathers the environment and the files that a command can look at, runs the
command on them, and writes out what it printed and changed. Pages are
rehearsed: the variable `PAGEFLOW_REHEARSAL` names the document of a script that
answers for the browser, and without one no session can be launched.
-/

namespace PageFlow.Program

open PageFlow.Text

/-- The name and the text of a variable, cut at the first equals sign. -/
def assignment? (s : String) : Option (String × String) :=
  match CommandLine.splitAtEquals s.toList with
  | (name, some text) => some (String.ofList name, text)
  | (_, none) => none

def readEnvironment : IO Environment := do
  let data ← IO.FS.readBinFile "/proc/self/environ"
  let text := (decodeUtf8 data.toList).toOption.getD ""
  return ⟨((text.splitToList (· == Char.ofNat 0)).filterMap
    assignment?).reverse⟩

/-! ## Files -/

def textOf (place : Place) : String :=
  "/" ++ "/".intercalate place

/-- The bytes of a file; none if it cannot be read. -/
def readData (place : Place) : IO (List UInt8) :=
  try
    return (← IO.FS.readBinFile (textOf place)).toList
  catch _ => return []

/-- The bytes of a file by this name are needed before it is known whether they
are asked for. -/
def isNeeded (name : String) : Bool :=
  name == ".env" || Flow.hasFlowSuffix ⟨.relative, [name]⟩

/-- Takes up what stands below a directory. -/
partial def addBelow (files : FileSystem) (place : Place) : IO FileSystem := do
  let mut files := files
  for entry in ← ((← IO.currentDir) / textOf place).readDir do
    let inner := place ++ [entry.fileName]
    match (← entry.path.symlinkMetadata).type with
    | .dir => files ← addBelow (files.put inner .directory) inner
    | .file =>
      let data ← if isNeeded entry.fileName then readData inner else pure []
      files := files.put inner (.file data)
    | _ => pure ()
  return files

/-- Takes up a file or a directory with the directories above it, if something
stands there. -/
def addPlace (files : FileSystem) (place : Place) : IO FileSystem := do
  let base ← IO.currentDir
  let mut files := files
  for length in List.range place.length do
    let above := place.take (length + 1)
    if ← (base / textOf above).isDir then
      if (files.at? above).isNone then
        files := files.put above .directory
        if above == place then files ← addBelow files place
    else if ← (base / textOf above).pathExists then
      files := files.put above (.file (← readData above))
  return files

/-- Takes up the files that arguments can name. -/
def addArguments (files : FileSystem) (arguments : List String) :
    IO FileSystem :=
  arguments.foldlM (fun files argument =>
    addPlace files (files.absolute (Path.ofText argument)).names) files

/-- The node of a file that should hold a history. -/
def historyNode (data : List UInt8) : Node :=
  match decodeUtf8 data with
  | .error _ => .file data
  | .ok text =>
    match Json.read text with
    | .error _ => .file data
    | .ok document =>
      match History.Table.ofDocument document with
      | none => .file data
      | some table => .history table

/-- Takes up the places that the settings name. -/
def addSettings (files : FileSystem) (environment : Environment) :
    IO FileSystem := do
  match Settings.read [] environment files with
  | .error _ => return files
  | .ok settings =>
    let places :=
      [settings.flowsDir, settings.screenshotDir, settings.logFile,
        settings.historyFile]
    let files ← places.foldlM
        (fun files path => addPlace files (files.absolute path).names) files
    let history := (files.absolute settings.historyFile).names
    match files.at? history with
    | some (.file data) => return files.put history (historyNode data)
    | _ => return files

/-- The bytes that a node is kept as, unless it is a directory. -/
def dataOf : Node → Option (List UInt8)
  | .directory => none
  | .file data => some data
  | .history table => some (encodeUtf8 (Json.line table.document))

def writeChanges (before after : FileSystem) : IO Unit :=
  after.nodes.forM fun (place, node) =>
    match dataOf node, (before.at? place).map dataOf with
    | none, some none => return
    | none, _ => IO.FS.createDirAll (textOf place)
    | some data, known => do
      if known != some (some data) then
        IO.FS.writeBinFile (textOf place) ⟨data.toArray⟩

/-! ## Sessions -/

def scriptFault (members : Json.Members) : SessionFault :=
  ⟨members.text "type", members.text "message", none⟩

/-- The script of a text; one that is no document launches no session. -/
def scriptOf (text : String) : Script :=
  match Json.read text with
  | .ok (.object members) => Script.read scriptFault members
  | _ =>
    { Script.plain with
      launchFault :=
        some ⟨"RuntimeError", "There is no browser to launch", none⟩ }

def readScript : IO Script := do
  match ← IO.getEnv "PAGEFLOW_REHEARSAL" with
  | none => return scriptOf ""
  | some path => return scriptOf (← IO.FS.readFile path)

/-! ## Running -/

/-- How the program is used. -/
def usageText : String :=
  "Usage: stepflow [OPTIONS] COMMAND [ARGS]...\n\nCommands: " ++
    ", ".intercalate CommandLine.Command.names ++ "\n"

def run (arguments : List String) : IO UInt32 := do
  let environment ← readEnvironment
  let script ← readScript
  let workdir := (Path.ofText (← IO.currentDir).toString).names
  let files ← addPlace ⟨[], workdir⟩ workdir
  let files ← addArguments files arguments
  let files ← addSettings files environment
  let time ← Std.Time.Timestamp.now
  let seed ← IO.rand 0 1000000000
  let world : World (List (ScriptedFailure × Nat)) := {
    session := script.start
    events := []
    clock := 0
    epoch := time.toMillisecondsSinceUnixEpoch.val
    random := fun k => (hash (seed + k)).toNat
    drawn := 0
    naps := []
    files := files
    environment := environment
    settings := none
    log := .start
    output := ""
    errors := ""
    received := [] }
  let (result, after) := CommandLine.run script.driver arguments world
  writeChanges files after.files
  IO.print after.output
  IO.eprint after.errors
  match result with
  | .ok (.code code) => return code.toUInt32
  | .ok .usage =>
    IO.eprint usageText
    return 2
  | .ok .help =>
    IO.print usageText
    return 0
  | .error fault =>
    IO.eprintln fault.message
    return 1

end PageFlow.Program

/-- Runs the program with the arguments of the command line. -/
def main (arguments : List String) : IO UInt32 :=
  PageFlow.Program.run arguments
