import PageFlow.Json
import PageFlow.Settings
import PageFlow.Text.Case

/-!
# Log records

A record has a level, the name of its logger, a message and a context: named
values that say what the program was doing. A logger takes its context from the
one that is bound for the whole program, as it is when a record is written, or
holds a context of its own that no longer changes.
-/

namespace PageFlow

/-- The level that a word asks for, in any case. Warnings and errors have a
second word. -/
def LogLevel.ofWord? (word : String) : Option LogLevel :=
  match Text.upperAscii word with
  | "WARN" => some .warning
  | "EXCEPTION" => some .error
  | name => LogLevel.all.find? fun level => level.name == name

/-- Named values, in the order in which they were given. -/
abbrev LogContext := List (String × Json)

namespace LogContext

/-- Adds values; of one name the later value counts. -/
def merge (context values : LogContext) : LogContext :=
  values.foldl (fun context (name, value) =>
    Json.insertMember context name value) context

/-- Takes names away. -/
def without (context : LogContext) (names : List String) : LogContext :=
  context.filter fun entry => !names.contains entry.1

end LogContext

structure LogRecord where
  level : LogLevel
  logger : String
  message : String
  context : LogContext
  deriving Repr, Inhabited

/-- Where a logger has its context from. -/
inductive ContextSource where
  | none
  | bound
  | fixed (context : LogContext)
  deriving Repr, Inhabited

structure Logger where
  name : String
  context : ContextSource
  deriving Repr, Inhabited

/-- The name of the program's logger; all other loggers stand below it. -/
def Logger.program : String := "stepflow"

/-- The logger of a part of the program, with the bound context. -/
def Logger.named (name : String) : Logger := ⟨name, .bound⟩

/-- The state of the log. `threshold` is missing until the log is set up. -/
structure Log where
  threshold : Option Nat
  file : Option Path
  bound : LogContext
  records : List LogRecord
  deriving Repr, Inhabited

namespace Log

/-- Not yet set up, with nothing bound. -/
def start : Log := ⟨none, none, [], []⟩

def bind (log : Log) (values : LogContext) : Log :=
  { log with bound := log.bound.merge values }

/-- Ends the binding of names. -/
def unbind (log : Log) (names : List String) : Log :=
  { log with bound := log.bound.without names }

def contextOf (log : Log) (logger : Logger) : LogContext :=
  match logger.context with
  | .none => []
  | .bound => log.bound
  | .fixed context => context

/-- A logger whose context is the one of another logger, on top of what is bound
now, with further values. It does not follow later bindings. -/
def withContext (log : Log) (logger : Logger) (values : LogContext) : Logger :=
  { logger with
    context := .fixed ((log.bound.merge (log.contextOf logger)).merge values) }

/-- Records of this rank are kept. -/
def admits (log : Log) (level : LogLevel) : Bool :=
  match log.threshold with
  | none => false
  | some threshold => threshold ≤ level.rank

def recordOf (log : Log) (logger : Logger) (level : LogLevel)
    (message : String) : LogRecord :=
  ⟨level, logger.name, message, log.contextOf logger⟩

def add (log : Log) (record : LogRecord) : Log :=
  { log with records := log.records ++ [record] }

/-- Upper case as far as words of ASCII capitals are concerned: the dotless i
and the long s have capitals in ASCII too. -/
def capital (c : Char) : Char :=
  if c = 'ı' then 'I' else if c = 'ſ' then 'S' else c.toUpper

/-- The rank that a word asks for, in any case of letters. Without a rank of its
own the program takes that of warnings, and an unknown word asks for that of
information. -/
def rankOf (word : String) : Nat :=
  match String.ofList (word.toList.map capital) with
  | "DEBUG" => 10
  | "WARNING" | "WARN" | "NOTSET" => 30
  | "ERROR" => 40
  | "CRITICAL" | "FATAL" => 50
  | _ => 20

end Log

end PageFlow
