import PageFlow.CommandLine.Arguments
import PageFlow.Field
import PageFlow.Settings
import PageFlow.Text.Digit

/-!
# Commands

The commands of the program, as their arguments say.
-/

namespace PageFlow.CommandLine

open PageFlow.Text

/-- What a run of flows is asked to do besides. -/
structure RunValues where
  baseUrl : Option String
  headless : Option Bool
  screenshotDir : Option String
  stopOnFailure : Bool
  json : Bool
  deriving DecidableEq, Repr, Inhabited

def runSwitches : List (Switch RunValues) := [
  ⟨"url", some 'u', .text fun url v => { v with baseUrl := some url }⟩,
  ⟨"headless", none, .mark fun v => { v with headless := some true }⟩,
  ⟨"no-headless", none, .mark fun v => { v with headless := some false }⟩,
  ⟨"screenshot-dir", none,
    .text fun path v => { v with screenshotDir := some path }⟩,
  ⟨"stop-on-failure", none, .mark fun v => { v with stopOnFailure := true }⟩,
  ⟨"json", none, .mark fun v => { v with json := true }⟩]

/-- What a smoke test is asked to do besides. The time limit is not yet read as
a number. -/
structure SmokeValues where
  timeout : Option String
  headless : Option Bool
  deriving DecidableEq, Repr, Inhabited

def smokeSwitches : List (Switch SmokeValues) := [
  ⟨"timeout", none, .text fun ms v => { v with timeout := some ms }⟩,
  ⟨"headless", none, .mark fun v => { v with headless := some true }⟩,
  ⟨"no-headless", none, .mark fun v => { v with headless := some false }⟩]

/-- What a validation looks at if no targets are named. -/
structure ValidateValues where
  directory : Option String
  recursive : Bool
  deriving DecidableEq, Repr, Inhabited

def validateSwitches : List (Switch ValidateValues) := [
  ⟨"dir", none, .text fun path v => { v with directory := some path }⟩,
  ⟨"recursive", none, .mark fun v => { v with recursive := true }⟩,
  ⟨"no-recursive", none, .mark fun v => { v with recursive := false }⟩]

/-- What a new flow file is made from, and where. -/
structure CreateValues where
  template : String
  baseUrl : Option String
  output : Option String
  deriving DecidableEq, Repr, Inhabited

def createSwitches : List (Switch CreateValues) := [
  ⟨"template", some 't', .text fun key v => { v with template := key }⟩,
  ⟨"url", some 'u', .text fun url v => { v with baseUrl := some url }⟩,
  ⟨"output", some 'o', .text fun path v => { v with output := some path }⟩]

/-- The options of the history: the number of runs, not yet read as one. -/
def historySwitches : List (Switch String) := [
  ⟨"limit", some 'n', .text fun limit _ => limit⟩]

inductive Command where
  | run (targets : List String) (values : RunValues)
  | smoke (url : String) (timeout : Option Int) (headless : Option Bool)
  | validate (targets : List String) (values : ValidateValues)
  | create (name : String) (values : CreateValues)
  | history (limit : Int)
  | config
  | templates
  | help
  deriving DecidableEq, Repr, Inhabited

/-- The integer that a text writes: a sign and digits of any script, with single
underscores between them and blanks around. -/
def integer? (s : String) : Option Int :=
  match (Field.strip s.toList).map asciiDigit with
  | '-' :: digits => (magnitude? digits).map fun n => -(n : Int)
  | '+' :: digits => (magnitude? digits).map Int.ofNat
  | digits => (magnitude? digits).map Int.ofNat
where
  /-- The number that digits write, unless there are too many of them. -/
  magnitude? (s : List Char) : Option Nat :=
    if (s.filter (· ≠ '_')).length ≤ Json.digitLimit then Field.grouped? s
      else none

namespace Command

def names : List String :=
  ["config", "run", "smoke", "validate", "templates", "create", "history"]

/-- The command of a reading: help if it is asked for, and otherwise what the
positions and values make, if they make one. -/
def ofReading (make : List String → α → Option Command) (reading : Reading α) :
    Option Command :=
  if reading.help then some .help else make reading.positions reading.values

def alone (command : Command) (arguments : List String) : Option Command :=
  (readArguments [] true () arguments).bind <| ofReading fun
    | [], _ => some command
    | _, _ => none

/-- The command of a name with its arguments, if they can be understood. -/
def read (name : String) (arguments : List String) : Option Command :=
  match name with
  | "run" =>
    (readArguments runSwitches true ⟨none, none, none, false, false⟩
      arguments).bind <|
      ofReading fun
        | [], _ => none
        | targets, values => some (.run targets values)
  | "smoke" =>
    (readArguments smokeSwitches true ⟨none, none⟩ arguments).bind <|
      ofReading fun
      | [url], ⟨none, headless⟩ => some (.smoke url none headless)
      | [url], ⟨some ms, headless⟩ =>
          (integer? ms).map fun ms => .smoke url (some ms) headless
      | _, _ => none
  | "validate" =>
    (readArguments validateSwitches true ⟨none, true⟩ arguments).bind <|
      ofReading fun targets values => some (.validate targets values)
  | "create" =>
    (readArguments createSwitches true ⟨"login", none, none⟩ arguments).bind <|
      ofReading fun
      | [flowName], values => some (.create flowName values)
      | _, _ => none
  | "history" =>
    (readArguments historySwitches true "10" arguments).bind <| ofReading fun
      | [], limit => (integer? limit).map .history
      | _, _ => none
  | "config" => alone .config arguments
  | "templates" => alone .templates arguments
  | _ => none

/-- A path that a command names, and whether a directory has to stand there.
Nothing but a directory may. -/
def directories : Command → List (String × Bool)
  | .run _ values => values.screenshotDir.toList.map (·, false)
  | .validate _ values => values.directory.toList.map (·, true)
  | .create _ values => values.output.toList.map (·, false)
  | _ => []

end Command

/-! ## Options in front of a command -/

/-- The options in front of a command. -/
structure ProgramValues where
  logLevel : Option String
  version : Bool
  deriving DecidableEq, Repr, Inhabited

/-- The options in front of a command. -/
def programSwitches : List (Switch ProgramValues) := [
  ⟨"log-level", none, .text fun word v => { v with logLevel := some word }⟩,
  ⟨"version", none, .mark fun v => { v with version := true }⟩]

def isLevelWord (word : String) : Bool :=
  LogLevel.all.any fun level => level.name == upperAscii word

/-- Arguments as a whole: a request for help or for the version, or a level for
the log together with the name of a command and its arguments. -/
inductive Invocation where
  | help
  | command (logLevel : Option String) (name : String) (arguments : List String)
  deriving DecidableEq, Repr, Inhabited

/-- Reads the arguments of the program as far as the name of the command. -/
def Invocation.read (arguments : List String) : Option Invocation :=
  match readArguments programSwitches false ⟨none, false⟩ arguments with
  | none => none
  | some reading =>
    if reading.help || reading.values.version then some .help
    else match reading.positions with
      | [] => none
      | name :: arguments =>
        if reading.values.logLevel.all isLevelWord &&
          Command.names.contains name then
          some (.command reading.values.logLevel name arguments)
        else none

end PageFlow.CommandLine
