import PageFlow.CommandLine.Command
import PageFlow.CommandLine.Targets
import PageFlow.Flow.Template
import PageFlow.Runner.Smoke
import PageFlow.Text.Terminal
import PageFlow.World.Logging

/-!
# The command line

What the program does for its arguments. A command tells what it found on the
console and ends with an exit code: zero if all went well. Arguments that are
not understood end the program before any command begins.
-/

namespace PageFlow.CommandLine

open PageFlow.Decimal

/-- How the program ends: with an exit code, because its arguments were not
understood, or after telling how it is used. -/
inductive Ending where
  | code (code : Nat)
  | usage
  | help
  deriving DecidableEq, Repr, Inhabited

/-- The exit code of a success or a failure. -/
def codeOf (success : Bool) : Nat :=
  if success then 0 else 1

variable {σ : Type}

/-- Writes a line to the console, without terminal codes. -/
def echo (text : String) : Act σ Unit :=
  Act.print (Text.withoutCodes text ++ "\n")

/-- Writes a line to the console for errors, without terminal codes. -/
def echoError (text : String) : Act σ Unit :=
  Act.printError (Text.withoutCodes text ++ "\n")

def tellFault (fault : Fault) : Act σ Unit :=
  echoError ("\n❌ Error: " ++ fault.message)

/-! ## Running -/

def standardRunner : Act σ Runner :=
  Runner.make none none none

/-- What a run of flows does besides, by the values of its options. -/
def RunValues.options (values : RunValues) : RunOptions where
  baseUrl := values.baseUrl
  screenshotDir := match values.screenshotDir with
    | none => none
    | some text => if text.isEmpty then none else some (Path.ofText text)
  headless := values.headless
  stopOnFailure := values.stopOnFailure
  json := values.json

/-- Runs sources and says whether all went well. Several sources are a batch. -/
def runSources (driver : Driver σ) (runner : Runner) (options : RunOptions)
    (sources : List FlowSource) : Act σ Bool :=
  match sources with
  | [source] => do
    match ← Act.settle (runner.run driver options source) with
    | .ok result => return result.failed == 0
    | .error fault =>
      tellFault fault
      return false
  | sources => do
    let batch ← runner.runAll driver options sources
    batch.errors.forM fun (key, text) =>
      echoError ("ERR " ++ key ++ " -> " ++ text)
    return batch.success

/-- Does an act while the log knows when the command began. -/
def withRunId (act : Act σ α) : Act σ α := do
  let time ← Act.now
  Act.change fun world =>
    { world with log :=
      world.log.bind [("run_id", .text (Calendar.compactText time))] }
  Act.ensuring act
    (Act.change fun world => { world with log := world.log.unbind ["run_id"] })

def runFiles (driver : Driver σ) (paths : List Path) (options : RunOptions) :
    Act σ Nat := do
  let runner ← standardRunner
  let read ← Act.ask fun world => sourcesOf world.files world.environment paths
  let sources ← Act.orFail .load read
  return codeOf (← withRunId (runSources driver runner options sources))

def runTargets (driver : Driver σ) (targets : List String)
    (options : RunOptions) : Act σ Nat := do
  let files ← Act.ask (·.files)
  let paths ← Act.orFail .file (expandTargets files targets)
  let missing ← Act.orFail .file (missingPaths files paths)
  if !missing.isEmpty then
    missing.forM fun path => echoError ("❌ Test flow not found: " ++ path.text)
    return 1
  if paths.isEmpty then
    echoError "No flows matched."
    return 1
  runFiles driver paths options

def smokeTest (driver : Driver σ) (url : String) (timeout : Option Int)
    (headless : Option Bool) : Act σ Nat := do
  let test : Act σ SmokeResult := do
    let runner ← standardRunner
    runner.smoke driver url timeout headless
  match ← Act.settle test with
  | .ok result => return codeOf result.success
  | .error fault =>
    tellFault fault
    return 1

/-! ## Flow files -/

def validateFiles (paths : List Path) : Act σ Nat := do
  let (lines, sound) ← Act.ask fun world =>
      checkFiles world.files world.environment paths
  lines.forM echo
  return codeOf sound

/-- Validates the flow files of targets, or those of a directory if there are no
targets. -/
def validate (targets : List String) (values : ValidateValues) : Act σ Nat := do
  let files ← Act.ask (·.files)
  if targets.isEmpty then
    let directory := values.directory.getD ""
    if directory.isEmpty then
      echo "Provide file(s) or --dir to validate."
      return 2
    let paths ← Act.orFail .file
        (Flow.discover files (Path.ofText directory) values.recursive)
    validateFiles paths
  else
    let paths ← Act.orFail .file (expandTargets files targets)
    validateFiles paths

/-- A line between a title and its list. -/
def ruler (length : Nat) : String :=
  String.ofList (List.replicate length '─')

/-- A word with blanks behind it up to a length. -/
def padded (length : Nat) (word : String) : String :=
  word ++ String.ofList (List.replicate (length - word.length) ' ')

def listTemplates : Act σ Nat := do
  echo "\n📋 Available Test Templates"
  echo (ruler 50)
  Template.all.forM fun template =>
    echo ("  " ++ padded 15 template.key ++ " " ++ template.purpose)
  echo ""
  echo "Use: stepflow create <name> --template <template>"
  return 0

def outputDir (files : FileSystem) (settings : Settings)
    (output : Option String) : Path :=
  match output with
  | none => settings.flowsDir
  | some text =>
      if text.isEmpty then settings.flowsDir
        else files.absolute (Path.ofText text)

def newFlowPath (directory : Path) (name : String) : Path :=
  directory.join (Path.ofText (Template.fileName name))

def create (name : String) (values : CreateValues) : Act σ Nat := do
  match Template.find? values.template (some name) values.baseUrl with
  | none =>
    echo ("❌ Unknown template: " ++ values.template)
    echo ("Available templates: " ++ ", ".intercalate
      (Template.all.map (·.key)))
    return 1
  | some document =>
    let settings ← Act.settings
    let files ← Act.ask (·.files)
    let _ ← Act.orFail .file
        (files.resolve (Path.ofText (values.output.getD "")))
    let directory := outputDir files settings values.output
    Act.ensureDirectory directory
    let path := newFlowPath directory name
    Act.writeFile path (Text.encodeUtf8 (Json.block .ascii document ++ "\n"))
    echo ("✅ Created test flow: " ++ path.text)
    echo "Edit the file to customize selectors and test data."
    return 0

/-! ## Records and settings -/

def recordLines (entry : History.Entry) : List String :=
  let number (n : Option Int) : String := intText (n.getD 0)
  [(if entry.failed == some 0 then "✅ " else "❌ ") ++ entry.flowName.getD "",
    "   " ++ entry.baseUrl.getD "",
    "   " ++ number entry.passed ++ "/" ++ number entry.total ++ " passed, " ++
      number entry.duration ++ "ms",
    "   " ++ entry.createdAt.getD "",
    ""]

def recentRuns (path : Path) (limit : Int) : Act σ (List History.Row) :=
  fun world =>
  match History.recent world.files path limit with
  | (files, .ok rows) => (.ok rows, { world with files := files })
  | (files, .error fault) =>
      (.error (.history fault), { world with files := files })

def listRuns (limit : Int) : Act σ Nat := do
  let settings ← Act.settings
  Act.setUpLog
  let rows ← recentRuns settings.historyFile limit
  if rows.isEmpty then
    echo "No test runs found"
  else
    echo "\n📋 Recent Test Runs"
    echo (ruler 60)
    (rows.flatMap fun row => recordLines row.entry).forM echo
  return 0

def listSettings : Act σ Nat := do
  let settings ← Act.settings
  echo (Json.block .unicode (.object settings.entries))
  return 0

/-! ## The program -/

def perform (driver : Driver σ) : Command → Act σ Ending
  | .run targets values => .code <$> runTargets driver targets values.options
  | .smoke url timeout headless =>
      .code <$> smokeTest driver url timeout headless
  | .validate targets values => .code <$> validate targets values
  | .create name values => .code <$> create name values
  | .history limit => .code <$> listRuns limit
  | .config => .code <$> listSettings
  | .templates => .code <$> listTemplates
  | .help => return .help

/-- Carries out the command of a name, after a level for the log was set. -/
def performNamed (driver : Driver σ) (logLevel : Option String) (name : String)
    (arguments : List String) : Act σ Ending := do
  let _ ← Act.settings
  match logLevel with
  | some word => Act.setLevel (Log.rankOf word)
  | none => pure ()
  match Command.read name arguments with
  | none => return .usage
  | some command =>
    let files ← Act.ask (·.files)
    let admitted ← Act.orFail .file (admitsPaths files command.directories)
    if admitted then perform driver command else return .usage

/-- Ends the program on a request to stop it. -/
def closing (act : Act σ Ending) : Act σ Ending := fun world =>
  match act world with
  | (.error (.session ⟨kind, text, some cause⟩), after) =>
    match cause with
    | .interrupt =>
        (do echoError "\nAborted!"; return .code 1 : Act σ Ending) after
    | .farewell =>
        (do Act.print (text ++ "\n"); return .code 1 : Act σ Ending) after
    | .other => (.error (.session ⟨kind, text, some .other⟩), after)
  | other => other

def run (driver : Driver σ) (arguments : List String) : Act σ Ending :=
  match Invocation.read arguments with
  | none => return .usage
  | some .help => return .help
  | some (.command logLevel name arguments) =>
    closing (performNamed driver logLevel name arguments)

end PageFlow.CommandLine
