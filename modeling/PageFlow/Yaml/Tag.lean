import PageFlow.Json.Reader

/-!
# Kinds of YAML nodes

The kind of a node is given by its tag. A plain scalar without one has the kind
that its spelling shows: truth values, numbers with and without a fraction, the
merge key, null, dates and the value key are told from texts.
-/

namespace PageFlow.Yaml

open PageFlow.Json (splitDigits)

inductive Kind where
  | null
  | truth
  | int
  | float
  | binary
  | timestamp
  | orderedMap
  | pairs
  | set
  | text
  | sequence
  | mapping
  | merge
  | value
  | unknown
  deriving DecidableEq, Repr

/-- What the standard tags begin with. -/
def standardUri : String := "tag:yaml.org,2002:"

def Kind.ofUri (uri : String) : Kind :=
  let names : List (String × Kind) :=
    [("null", .null), ("bool", .truth), ("int", .int), ("float", .float),
      ("binary", .binary), ("timestamp", .timestamp), ("omap", .orderedMap),
      ("pairs", .pairs), ("set", .set), ("str", .text), ("seq", .sequence),
      ("map", .mapping), ("merge", .merge), ("value", .value)]
  match names.find? fun entry => standardUri ++ entry.1 == uri with
  | some entry => entry.2
  | none => .unknown

namespace Spelling

def truthWords : List String :=
  ["yes", "Yes", "YES", "no", "No", "NO", "true", "True", "TRUE", "false",
    "False", "FALSE", "on", "On", "ON", "off", "Off", "OFF"]

def nullWords : List String :=
  ["~", "null", "Null", "NULL", ""]

/-- The text without one sign at its front. -/
def withoutSign : List Char → List Char
  | '+' :: rest => rest
  | '-' :: rest => rest
  | s => s

/-- A digit or an underscore. -/
def isGroupChar (c : Char) : Bool :=
  c.isDigit || c == '_'

/-- At least one of a class and nothing else. -/
def only (p : Char → Bool) (s : List Char) : Bool :=
  !s.isEmpty && s.all p

/-- Parts in base sixty behind a first number: each begins with a colon and has
one digit, or two digits the first of which is below six. What follows them is
given back; at least one is needed. -/
def sixties (s : List Char) : Option (List Char) :=
  match s with
  | ':' :: a :: b :: rest =>
    if a.isDigit && b.isDigit && a < '6' then some (more rest)
    else if a.isDigit then some (more (b :: rest))
    else none
  | ':' :: a :: [] => if a.isDigit then some [] else none
  | _ => none
where
  /-- Any number of parts. -/
  more : List Char → List Char
    | ':' :: a :: b :: rest =>
      if a.isDigit && b.isDigit && a < '6' then more rest
      else if a.isDigit then more (b :: rest)
      else ':' :: a :: b :: rest
    | ':' :: a :: [] => if a.isDigit then [] else [':', a]
    | s => s

/-- Digits in groups that begin with a digit, and what follows. -/
def splitGroups (s : List Char) : Option (List Char) :=
  match s with
  | c :: _ => if c.isDigit then some (s.dropWhile isGroupChar) else none
  | [] => none

/-- An integer: binary, octal, hexadecimal, decimal or in base sixty. -/
def isInt (s : List Char) : Bool :=
  let body := withoutSign s
  match body with
  | ['0'] => true
  | '0' :: 'b' :: rest => only (fun c => c == '0' || c == '1' || c == '_') rest
  | '0' :: 'x' :: rest =>
      only (fun c => (Json.hexValue? c).isSome || c == '_') rest
  | '0' :: rest => only (fun c => ('0' ≤ c && c ≤ '7') || c == '_') rest
  | c :: rest =>
    c.isDigit &&
      (rest.all isGroupChar || sixties (rest.dropWhile isGroupChar) == some [])
  | [] => false

def isExponent (s : List Char) : Bool :=
  match s with
  | [] => true
  | e :: sign :: digits =>
    (e == 'e' || e == 'E') &&
      (sign == '-' || sign == '+') && only Char.isDigit digits
  | _ => false

/-- A number with a fraction, in base ten or sixty, or a word for infinity or
for the undefined number. -/
def isFloat (s : List Char) : Bool :=
  let body := withoutSign s
  let decimal := match splitGroups body with
    | some ('.' :: rest) => isExponent (rest.dropWhile isGroupChar)
    | _ => false
  let fraction := match s with
    | '.' :: c :: rest => c.isDigit && isExponent (rest.dropWhile isGroupChar)
    | _ => false
  let sixty := match (splitGroups body).bind sixties with
    | some ('.' :: rest) => rest.all isGroupChar
    | _ => false
  decimal || fraction || sixty ||
    [".inf", ".Inf", ".INF"].contains (String.ofList body) ||
    [".nan", ".NaN", ".NAN"].contains (String.ofList s)

/-- The text without one line break at its end. Every form may have one
there. -/
def withoutBreak (s : List Char) : List Char :=
  if s.getLast? = some '\n' then s.dropLast else s

/-- So many digits at the front, between two bounds, as many as there are. -/
def takeDigits (least most : Nat) (s : List Char) :
    Option (List Char × List Char) :=
  let digits := (s.take most).takeWhile Char.isDigit
  if digits.length < least then none else some (digits, s.drop digits.length)

def takeChar (c : Char) (s : List Char) : Option (List Char) :=
  if s.head? = some c then some s.tail else none

/-- The digits of a time of day and what follows: fraction, sign and parts of
the offset. -/
structure ClockParts where
  hour : List Char
  minute : List Char
  second : List Char
  fraction : List Char
  zulu : Bool
  sign : Option Char
  offsetHour : List Char
  offsetMinute : List Char

/-- The digits of a date and those of a time, if it has one. `short` says that
month or day has one digit only. -/
structure StampParts where
  year : List Char
  month : List Char
  day : List Char
  clock : Option ClockParts

def skipSpace (s : List Char) : List Char :=
  s.dropWhile fun c => c == ' ' || c == '\t'

/-- The offset at the end of a time; nothing else may follow. -/
def splitOffset (s : List Char) :
    Option (Bool × Option Char × List Char × List Char) :=
  if s.isEmpty then some (false, none, [], [])
  else match skipSpace s with
    | ['Z'] => some (true, none, [], [])
    | c :: rest =>
      if c == '-' || c == '+' then do
        let (hour, rest) ← takeDigits 1 2 rest
        if rest.isEmpty then return (false, some c, hour, [])
        let (minute, rest) ← takeDigits 2 2 (← takeChar ':' rest)
        if rest.isEmpty then return (false, some c, hour, minute) else none
      else none
    | [] => none

/-- A time of day behind a date. -/
def splitClock (s : List Char) : Option ClockParts := do
  let rest ← match s with
    | c :: rest =>
      if c == 'T' || c == 't' then some rest
      else if c == ' ' || c == '\t' then some (skipSpace s)
      else none
    | [] => none
  let (hour, rest) ← takeDigits 1 2 rest
  let (minute, rest) ← takeDigits 2 2 (← takeChar ':' rest)
  let (second, rest) ← takeDigits 2 2 (← takeChar ':' rest)
  let (fraction, rest) := match rest with
    | '.' :: rest => splitDigits rest
    | rest => ([], rest)
  let (zulu, sign, offsetHour, offsetMinute) ← splitOffset rest
  return {
    hour, minute, second, fraction, zulu, sign, offsetHour, offsetMinute }

/-- A date, and a time of day behind it. -/
def splitStamp (s : List Char) : Option StampParts := do
  let (year, rest) ← takeDigits 4 4 s
  let (month, rest) ← takeDigits 1 2 (← takeChar '-' rest)
  let (day, rest) ← takeDigits 1 2 (← takeChar '-' rest)
  if rest.isEmpty then return { year, month, day, clock := none }
  return { year, month, day, clock := some (← splitClock rest) }

/-- A date with two digits each for month and day, or a date with a time. -/
def isTimestamp (s : List Char) : Bool :=
  match splitStamp s with
  | none => false
  | some parts =>
      parts.clock.isSome || (parts.month.length == 2 && parts.day.length == 2)

end Spelling

open Spelling in
/-- The kind that a scalar shows by its spelling. A line break alone shows
nothing, and the signs of labels show a kind that no scalar has. -/
def Kind.ofSpelling (text : String) : Kind :=
  let s := withoutBreak text.toList
  let word := String.ofList s
  if text = "\n" then .text
  else if truthWords.contains word then .truth
  else if isFloat s then .float
  else if isInt s then .int
  else if word = "<<" then .merge
  else if nullWords.contains word then .null
  else if isTimestamp s then .timestamp
  else if word = "=" then .value
  else if ["!", "&", "*"].contains word then .unknown
  else .text

end PageFlow.Yaml
