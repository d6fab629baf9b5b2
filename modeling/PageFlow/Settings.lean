import PageFlow.Json
import PageFlow.Path

/-!
# Settings

What the program does unless a flow or a command says otherwise: the browser,
the places of files, the time limits, the pacing, the history of runs and the
log.
-/

namespace PageFlow

inductive BrowserKind where
  | chromium
  | firefox
  | webkit
  deriving DecidableEq, Repr, Inhabited

def BrowserKind.name : BrowserKind → String
  | .chromium => "chromium"
  | .firefox => "firefox"
  | .webkit => "webkit"

def BrowserKind.all : List BrowserKind :=
  [.chromium, .firefox, .webkit]

/-- The weights of log records. -/
inductive LogLevel where
  | debug
  | info
  | warning
  | error
  | critical
  deriving DecidableEq, Repr, Inhabited

def LogLevel.name : LogLevel → String
  | .debug => "DEBUG"
  | .info => "INFO"
  | .warning => "WARNING"
  | .error => "ERROR"
  | .critical => "CRITICAL"

/-- The rank of a level; heavier records have a higher one. -/
def LogLevel.rank : LogLevel → Nat
  | .debug => 10
  | .info => 20
  | .warning => 30
  | .error => 40
  | .critical => 50

def LogLevel.all : List LogLevel :=
  [.debug, .info, .warning, .error, .critical]

structure DelayRange where
  least : Nat
  most : Nat
  ordered : least ≤ most
  deriving Repr

/-- The settings. Times are in milliseconds. -/
structure Settings where
  headless : Bool
  browser : BrowserKind
  viewportWidth : Nat
  viewportHeight : Nat
  slowMotion : Nat
  userAgent : Option String
  screenshotDir : Path
  flowsDir : Path
  navigationTimeout : Nat
  actionTimeout : Nat
  waitForTimeout : Nat
  smokeTimeout : Nat
  humanize : Bool
  clickDelay : DelayRange
  keyDelay : DelayRange
  scrollSettle : Nat
  recordHistory : Bool
  historyFile : Path
  logLevel : LogLevel
  logToFile : Bool
  logFile : Path
  colorized : Bool
  deriving Repr

namespace Settings

/-- The settings with their names, in the order in which they are documented. -/
def entries (s : Settings) : List (String × Json) :=
  [("HEADLESS", .bool s.headless),
    ("BROWSER_TYPE", .text s.browser.name),
    ("VIEWPORT_WIDTH", .int s.viewportWidth),
    ("VIEWPORT_HEIGHT", .int s.viewportHeight),
    ("SLOW_MO", .int s.slowMotion),
    ("USER_AGENT", match s.userAgent with
      | none => .null
      | some agent => .text agent),
    ("SCREENSHOT_DIR", .text s.screenshotDir.text),
    ("FLOWS_DIR", .text s.flowsDir.text),
    ("NAVIGATION_TIMEOUT_MS", .int s.navigationTimeout),
    ("ACTION_TIMEOUT_MS", .int s.actionTimeout),
    ("WAIT_FOR_TIMEOUT_MS", .int s.waitForTimeout),
    ("SMOKE_TIMEOUT_MS", .int s.smokeTimeout),
    ("HUMANIZE", .bool s.humanize),
    ("CLICK_DELAY_MIN_MS", .int s.clickDelay.least),
    ("CLICK_DELAY_MAX_MS", .int s.clickDelay.most),
    ("KEY_DELAY_MIN_MS", .int s.keyDelay.least),
    ("KEY_DELAY_MAX_MS", .int s.keyDelay.most),
    ("SCROLL_SETTLE_MS", .int s.scrollSettle),
    ("RECORD_HISTORY", .bool s.recordHistory),
    ("HISTORY_DB", .text s.historyFile.text),
    ("LOG_LEVEL", .text s.logLevel.name),
    ("LOG_TO_FILE", .bool s.logToFile),
    ("LOG_FILE", .text s.logFile.text),
    ("COLORIZED_OUTPUT", .bool s.colorized)]

end Settings

end PageFlow
