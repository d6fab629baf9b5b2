import PageFlow.Field
import PageFlow.Flow.File
import PageFlow.Settings
import PageFlow.Settings.Dotenv
import PageFlow.Value.Display

/-!
# Reading settings

A setting is taken from the caller, else from the environment, else from the
file `.env` in the working directory, else it has its usual value. Names count
in any case. All settings are looked at in order and their problems are told
together; only when there are none, the bounds of the delays are compared.
-/

namespace PageFlow

open PageFlow.Text

/-- Why there are no settings. -/
inductive SettingsFault where
  | invalid (problems : List Problem)
  | encoding (fault : Utf8Fault)
  | home
  deriving DecidableEq, Repr

def SettingsFault.message : SettingsFault → String
  | .invalid problems =>
    "; ".intercalate (problems.map fun problem =>
      problem.placeText ++ ": " ++ problem.cause.message)
  | .encoding fault => fault.message
  | .home => "Could not determine home directory."

/-- What settings are read from: the texts and values by name, the working
directory and the home directory. A name of the file may be given nothing. -/
structure SettingsSource where
  given : List (String × Value)
  environment : Environment
  file : List (String × Option String)
  workdir : Path
  home : Path

namespace SettingsSource

/-- The last entry among those whose name is equal in any case. -/
def last? (entries : List (String × α)) (name : String) : Option α :=
  (entries.reverse.find? fun entry => lower entry.1 == lower name).map Prod.snd

/-- The value that a caller gives; of several spellings the exact one is
taken. -/
def givenValue? (given : List (String × Value)) (name : String) :
    Option Value :=
  match given.lookup name with
  | some value => some value
  | none => last? given name

def find? (source : SettingsSource) (name : String) : Option Value :=
  match givenValue? source.given name with
  | some value => some value
  | none =>
    match last? source.environment.entries name with
    | some text => some (.text text)
    | none => (last? source.file name).join.map .text

end SettingsSource

namespace Settings

/-- A result of reading several settings: the value, or all problems in
order. -/
abbrev Checked (α : Type) := Except (List Problem) α

/-- Gives one more argument to a function; the problems of both sides are
kept. -/
def Checked.apply (f : Checked (α → β)) (x : Checked α) : Checked β :=
  match f, x with
  | .ok f, .ok x => .ok (f x)
  | f, x => .error (Field.problems f ++ Field.problems x)

def setting (source : SettingsSource) (name : String) (usual : α)
    (read : Value → Except FieldCause α) : Checked α :=
  match source.find? name with
  | none => .ok usual
  | some value => Field.placed [name] (read value)

/-- One of some words. -/
def readChoice (all : List α) (name : α → String) (value : Value) :
    Except FieldCause α :=
  let refusal := FieldCause.choice (all.map name)
  match value with
  | .text s =>
    match all.find? fun item => name item == s with
    | some item => .ok item
    | none => .error refusal
  | _ => .error refusal

/-- An integer within bounds that are not below zero. -/
def readNat (least : Nat) (most : Option Nat) (value : Value) :
    Except FieldCause Nat := do
  return (← Field.bounded (some least) (most.map Int.ofNat) value).toNat

/-- A text, or nothing for null. -/
def readAgent (value : Value) : Except FieldCause (Option String) :=
  match value with
  | .null => .ok none
  | value => (Field.text value).map some

/-- A path; a tilde at its front stands for the home directory. -/
def readPath (home : Path) (value : Value) : Except FieldCause Path :=
  match value with
  | .null => .error .path
  | value =>
    let path := Path.ofText value.display
    match path.anchor, path.names with
    | .relative, "~" :: names => .ok ⟨home.anchor, home.names ++ names⟩
    | _, _ => .ok path

/-- A path behind the working directory. -/
def readAbsolute (workdir home : Path) (value : Value) :
    Except FieldCause Path :=
  (readPath home value).map workdir.join

/-- Another user's home directory is asked for, which is not known. -/
def asksForHome (source : SettingsSource) (name : String) : Bool :=
  match source.find? name with
  | none => false
  | some .null => false
  | some value =>
    let path := Path.ofText value.display
    path.anchor == .relative &&
      match path.names with
      | first :: _ => first.startsWith "~" && first != "~"
      | [] => false

/-- The settings from their parts, if the bounds of both delays are in order. -/
def assemble (headless : Bool) (browser : BrowserKind)
    (viewportWidth viewportHeight slowMotion : Nat) (userAgent : Option String)
    (screenshotDir flowsDir : Path)
    (navigationTimeout actionTimeout waitForTimeout smokeTimeout : Nat)
    (humanize : Bool) (clickLeast clickMost keyLeast keyMost scrollSettle : Nat)
    (recordHistory : Bool) (historyFile : Path) (logLevel : LogLevel)
    (logToFile : Bool) (logFile : Path) (colorized : Bool) : Checked Settings :=
  if clickOrdered : clickLeast ≤ clickMost then
    if keyOrdered : keyLeast ≤ keyMost then
      .ok {
        headless, browser, viewportWidth, viewportHeight, slowMotion, userAgent,
        screenshotDir,
        flowsDir, navigationTimeout, actionTimeout, waitForTimeout,
        smokeTimeout, humanize,
        clickDelay := ⟨clickLeast, clickMost, clickOrdered⟩
        keyDelay := ⟨keyLeast, keyMost, keyOrdered⟩
        scrollSettle, recordHistory, historyFile, logLevel, logToFile,
        logFile, colorized }
    else .error [⟨[], .rule "KEY_DELAY_MAX_MS must be >= KEY_DELAY_MIN_MS"⟩]
  else .error [⟨[], .rule "CLICK_DELAY_MAX_MS must be >= CLICK_DELAY_MIN_MS"⟩]

def check (source : SettingsSource) : Checked Settings :=
  let truth (name : String) (usual : Bool) :=
    setting source name usual Field.truth
  let time (name : String) (usual : Nat) :=
    setting source name usual (readNat 0 none)
  let absolute (name : String) (usual : Path) :=
    setting source name (source.workdir.join usual)
      (readAbsolute source.workdir source.home)
  let history : Path :=
    ⟨source.home.anchor, source.home.names ++ [".stepflow", "history.db"]⟩
  let parts :=
    Checked.apply (.ok assemble) (truth "HEADLESS" true)
    |>.apply (setting source "BROWSER_TYPE" .chromium
      (readChoice BrowserKind.all BrowserKind.name))
    |>.apply (setting source "VIEWPORT_WIDTH" 1920 (readNat 320 (some 7680)))
    |>.apply (setting source "VIEWPORT_HEIGHT" 1080 (readNat 320 (some 4320)))
    |>.apply (time "SLOW_MO" 0)
    |>.apply (setting source "USER_AGENT" none readAgent)
    |>.apply (setting source "SCREENSHOT_DIR" (Path.ofText "screenshots")
      (readPath source.home))
    |>.apply (absolute "FLOWS_DIR" (Path.ofText "flows"))
    |>.apply (time "NAVIGATION_TIMEOUT_MS" 30000)
    |>.apply (time "ACTION_TIMEOUT_MS" 10000)
    |>.apply (time "WAIT_FOR_TIMEOUT_MS" 30000)
    |>.apply (time "SMOKE_TIMEOUT_MS" 30000)
    |>.apply (truth "HUMANIZE" true)
    |>.apply (time "CLICK_DELAY_MIN_MS" 100)
    |>.apply (time "CLICK_DELAY_MAX_MS" 300)
    |>.apply (time "KEY_DELAY_MIN_MS" 50)
    |>.apply (time "KEY_DELAY_MAX_MS" 150)
    |>.apply (time "SCROLL_SETTLE_MS" 500)
    |>.apply (truth "RECORD_HISTORY" true)
    |>.apply (absolute "HISTORY_DB" history)
    |>.apply (setting source "LOG_LEVEL" .info
      (readChoice LogLevel.all LogLevel.name))
    |>.apply (truth "LOG_TO_FILE" false)
    |>.apply (absolute "LOG_FILE" (Path.ofText "stepflow.log"))
    |>.apply (truth "COLORIZED_OUTPUT" true)
  match parts with
  | .ok result => result
  | .error problems => .error problems

def pathNames : List String :=
  ["SCREENSHOT_DIR", "FLOWS_DIR", "HISTORY_DB", "LOG_FILE"]

def ofSource (source : SettingsSource) : Except SettingsFault Settings :=
  if pathNames.any (asksForHome source) then .error .home
  else match check source with
    | .ok settings => .ok settings
    | .error problems => .error (.invalid problems)

/-- The entries of the file `.env` in the working directory. Without such a file
there are none. -/
def fileEntries (files : FileSystem) (environment : Environment) :
    Except Utf8Fault (List (String × Option String)) :=
  match files.look (Path.ofText ".env") with
  | .ok (some (.file data)) =>
    (decodeUtf8 data).map fun s =>
      Dotenv.read environment (String.ofList (Flow.normalLines s.toList))
  | _ => .ok []

/-- Reads the settings of a place: values given by a caller, the environment and
the files. -/
def read (given : List (String × Value)) (environment : Environment)
    (files : FileSystem) : Except SettingsFault Settings :=
  match fileEntries files environment with
  | .error fault => .error (.encoding fault)
  | .ok file =>
    let home := Path.ofText ((environment.find? "HOME").getD "/")
    ofSource
      { given, environment, file, workdir := ⟨.root, files.workdir⟩, home }

end Settings

end PageFlow
