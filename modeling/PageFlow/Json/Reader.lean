import PageFlow.Json

/-!
# Reading JSON

A document from its text. Besides the standard form, `NaN`, `Infinity` and
`-Infinity` are numbers. Of two members with one name the last value counts, at
the place of the first. A fault says what was expected and where.
-/

namespace PageFlow.Json

open PageFlow.Decimal

/-- What is wrong with a text. -/
inductive Cause where
  | value
  | name
  | colon
  | comma
  | extra
  | unterminated
  | control
  | escape
  | unitEscape
  | mark
  deriving DecidableEq, Repr

def Cause.message : Cause → String
  | .value => "Expecting value"
  | .name => "Expecting property name enclosed in double quotes"
  | .colon => "Expecting ':' delimiter"
  | .comma => "Expecting ',' delimiter"
  | .extra => "Extra data"
  | .unterminated => "Unterminated string starting at"
  | .control => "Invalid control character at"
  | .escape => "Invalid \\escape"
  | .unitEscape => "Invalid \\uXXXX escape"
  | .mark => "Unexpected UTF-8 BOM (decode using utf-8-sig)"

/-- A fault: a cause with the number of characters from there to the end of the
text, or an integer with more digits than a limit allows. -/
inductive Stop where
  | at (cause : Cause) (remaining : Nat)
  | tooManyDigits (count : Nat)
  deriving DecidableEq, Repr

/-- The layout characters of a document. -/
def isLayout (c : Char) : Bool :=
  c == ' ' || c == '\t' || c == '\n' || c == '\r'

/-- The text after the layout at its front. -/
def skipLayout (s : List Char) : List Char :=
  s.dropWhile isLayout

def hexValue? (c : Char) : Option Nat :=
  if '0' ≤ c ∧ c ≤ '9' then some (c.toNat - 48)
  else if 'a' ≤ c ∧ c ≤ 'f' then some (c.toNat - 87)
  else if 'A' ≤ c ∧ c ≤ 'F' then some (c.toNat - 55)
  else none

/-- The code unit of four hexadecimal digits. -/
def unit? (a b c d : Char) : Option Nat := do
  return ((← hexValue? a) * 16 + (← hexValue? b)) * 256 +
    ((← hexValue? c) * 16 + (← hexValue? d))

def shortEscape? : Char → Option Char
  | '"' => some '"'
  | '\\' => some '\\'
  | '/' => some '/'
  | 'b' => some (Char.ofNat 8)
  | 'f' => some (Char.ofNat 12)
  | 'n' => some '\n'
  | 'r' => some '\r'
  | 't' => some '\t'
  | _ => none

/-- The character of a code unit; half of a pair on its own has none and is
replaced. -/
def unitChar (unit : Nat) : Char :=
  if 0xd800 ≤ unit ∧ unit < 0xe000 then Char.ofNat 0xfffd else Char.ofNat unit

def pairChar (high low : Nat) : Char :=
  Char.ofNat (0x10000 + (high - 0xd800) * 0x400 + (low - 0xdc00))

/-- A part of a text: a character, or a code unit that was escaped. -/
inductive TextUnit where
  | char (c : Char)
  | code (unit : Nat)
  deriving DecidableEq, Repr

/-- Puts a part in front of those that were read. -/
def consRead (part : TextUnit) (read : List TextUnit × List Char) :
    List TextUnit × List Char :=
  (part :: read.1, read.2)

/-- The parts of a text up to its closing quote, and what follows. `start`
counts the characters from the opening quote. An escape by code unit must not be
the last thing in the input. -/
def readUnits (start : Nat) :
    List Char → Except Stop (List TextUnit × List Char)
  | [] => .error (.at .unterminated start)
  | '"' :: rest => .ok ([], rest)
  | ['\\'] => .error (.at .unterminated start)
  | '\\' :: 'u' :: a :: b :: c :: d :: next :: rest =>
    match unit? a b c d with
    | none => .error (.at .unitEscape (rest.length + 6))
    | some unit => (readUnits start (next :: rest)).map (consRead (.code unit))
  | '\\' :: 'u' :: rest => .error (.at .unitEscape (rest.length + 1))
  | '\\' :: c :: rest =>
    match shortEscape? c with
    | some escaped => (readUnits start rest).map (consRead (.char escaped))
    | none => .error (.at .escape (rest.length + 2))
  | c :: rest =>
    if c.toNat < 0x20 then .error (.at .control (rest.length + 1))
    else (readUnits start rest).map (consRead (.char c))

/-- The characters of the parts of a text; two halves of a pair are one
character. -/
def joinUnits : List TextUnit → List Char
  | [] => []
  | .char c :: rest => c :: joinUnits rest
  | .code high :: .code low :: rest =>
    if (0xd800 ≤ high ∧ high < 0xdc00) ∧ (0xdc00 ≤ low ∧ low < 0xe000) then
      pairChar high low :: joinUnits rest
    else unitChar high :: joinUnits (.code low :: rest)
  | .code unit :: rest => unitChar unit :: joinUnits rest

/-- The characters of a text up to its closing quote, and what follows. -/
def readText (start : Nat) (s : List Char) :
    Except Stop (List Char × List Char) :=
  (readUnits start s).map fun (units, rest) => (joinUnits units, rest)

/-- The decimal digits at the front, and what follows. -/
def splitDigits (s : List Char) : List Char × List Char :=
  (s.takeWhile Char.isDigit, s.dropWhile Char.isDigit)

/-- The natural number that decimal digits write. -/
def digitsValue (digits : List Char) : Nat :=
  digits.foldl (fun n c => 10 * n + (c.toNat - 48)) 0

/-- The digits of a fraction after a point; a point without digits belongs to
what follows. -/
def splitFraction : List Char → Option (List Char) × List Char
  | '.' :: rest =>
    match splitDigits rest with
    | ([], _) => (none, '.' :: rest)
    | (digits, more) => (some digits, more)
  | rest => (none, rest)

/-- The exponent at the front; without digits it belongs to what follows. -/
def splitExponent (s : List Char) : Option Int × List Char :=
  match s with
  | c :: rest =>
    if c = 'e' ∨ c = 'E' then
      let (negative, tail) := match rest with
        | '-' :: tail => (true, tail)
        | '+' :: tail => (false, tail)
        | tail => (false, tail)
      match splitDigits tail with
      | ([], _) => (none, s)
      | (digits, more) =>
        let n : Int := digitsValue digits
        (some (if negative then -n else n), more)
    else (none, s)
  | [] => (none, s)

/-- Integers may have this many digits, unless another limit is set. -/
def digitLimit : Nat := 4300

/-- Whether a limit allows integers of so many digits; zero is no limit. -/
def allows (limit count : Nat) : Bool :=
  limit == 0 || count ≤ limit

/-- The whole part of a number: a zero, or digits that begin with another
one. -/
def splitWhole (s : List Char) : List Char × List Char :=
  match s with
  | '0' :: rest => (['0'], rest)
  | _ => splitDigits s

/-- A number after its sign. `none` if there is no digit. -/
def readNumber? (limit : Nat) (negative : Bool) (s : List Char) :
    Except Stop (Option (Json × List Char)) :=
  match splitWhole s with
  | ([], _) => .ok none
  | (whole, rest) =>
    let (fraction, rest) := splitFraction rest
    let (exponent, rest) := splitExponent rest
    match fraction, exponent with
    | none, none =>
      if allows limit whole.length then
        let n : Int := digitsValue whole
        .ok (some (.int (if negative then -n else n), rest))
      else .error (.tooManyDigits whole.length)
    | _, _ =>
      let decimals := fraction.getD []
      let power := exponent.getD 0 - (decimals.length : Int)
      .ok
        (some (.float
          (Binary64.ofDecimal negative (digitsValue (whole ++ decimals)) power),
          rest))

/-- The rest of a text after a word at its front. -/
def afterWord? (word s : List Char) : Option (List Char) :=
  if word.isPrefixOf s then some (s.drop word.length) else none

/-- A document that is neither a text nor a collection. -/
def readScalar (limit : Nat) (s : List Char) : Except Stop (Json × List Char) :=
  match s with
  | 'n' :: _ => word "null" .null
  | 't' :: _ => word "true" (.bool true)
  | 'f' :: _ => word "false" (.bool false)
  | 'N' :: _ => word "NaN" (.float .nan)
  | 'I' :: _ => word "Infinity" (.float (.infinite false))
  | '-' :: rest =>
    match afterWord? "Infinity".toList rest with
    | some rest => .ok (.float (.infinite true), rest)
    | none => number true rest
  | _ => number false s
where
  /-- A fixed word, or a fault where it should stand. -/
  word (text : String) (document : Json) : Except Stop (Json × List Char) :=
    match afterWord? text.toList s with
    | some rest => .ok (document, rest)
    | none => .error (.at .value s.length)
  /-- A number, or a fault where it should stand. -/
  number (negative : Bool) (digits : List Char) :
    Except Stop (Json × List Char) :=
    match readNumber? limit negative digits with
    | .error stop => .error stop
    | .ok (some read) => .ok read
    | .ok none => .error (.at .value s.length)

mutual

/-- A document at the front of a text, and what follows it. -/
def readValue (limit : Nat) : Nat → List Char → Except Stop (Json × List Char)
  | 0, s => .error (.at .value s.length)
  | fuel + 1, s =>
    match s with
    | '"' :: rest => do
      let (chars, rest) ← readText s.length rest
      return (.text (String.ofList chars), rest)
    | '[' :: rest =>
      match skipLayout rest with
      | ']' :: rest => .ok (.array [], rest)
      | rest => do
        let (items, rest) ← readItems limit fuel rest
        return (.array items, rest)
    | '{' :: rest =>
      match skipLayout rest with
      | '}' :: rest => .ok (.object [], rest)
      | rest => do
        let (members, rest) ← readMembers limit fuel [] rest
        return (.object members, rest)
    | _ => readScalar limit s

/-- The items of an array up to its closing bracket. -/
def readItems (limit : Nat) :
    Nat → List Char → Except Stop (List Json × List Char)
  | 0, s => .error (.at .value s.length)
  | fuel + 1, s => do
    let (item, rest) ← readValue limit fuel s
    match skipLayout rest with
    | ']' :: rest => return ([item], rest)
    | ',' :: rest =>
      let (items, rest) ← readItems limit fuel (skipLayout rest)
      return (item :: items, rest)
    | rest => throw (.at .comma rest.length)

/-- The members of an object up to its closing brace, added to those before
them. -/
def readMembers (limit : Nat) : Nat → List (String × Json) → List Char →
    Except Stop (List (String × Json) × List Char)
  | 0, _, s => .error (.at .value s.length)
  | fuel + 1, members, s =>
    match s with
    | '"' :: rest => do
      let (name, rest) ← readText s.length rest
      match skipLayout rest with
      | ':' :: rest =>
        let (value, rest) ← readValue limit fuel (skipLayout rest)
        let members := insertMember members (String.ofList name) value
        match skipLayout rest with
        | '}' :: rest => return (members, rest)
        | ',' :: rest => readMembers limit fuel members (skipLayout rest)
        | rest => throw (.at .comma rest.length)
      | rest => throw (.at .colon rest.length)
    | _ => .error (.at .name s.length)

end

/-- A whole document under a limit on the digits of integers: layout may stand
around it, nothing else. -/
def readAll (limit : Nat) (s : List Char) : Except Stop Json := do
  if s.head? = some (Char.ofNat 0xfeff) then throw (.at .mark s.length)
  let (document, rest) ← readValue limit (s.length + 1) (skipLayout s)
  match skipLayout rest with
  | [] => return document
  | rest => throw (.at .extra rest.length)

/-- A fault with its place in the text: offset, line and column. -/
inductive ReadFault where
  | at (cause : Cause) (offset line column : Nat)
  | tooManyDigits (count : Nat)
  deriving DecidableEq, Repr

/-- The place of a fault; lines and columns count from one. -/
def Stop.locate (s : List Char) : Stop → ReadFault
  | .tooManyDigits count => .tooManyDigits count
  | .at cause remaining =>
    let before := s.take (s.length - remaining)
    .at cause before.length (before.count '\n' + 1)
      ((before.reverse.takeWhile (· ≠ '\n')).length + 1)

def ReadFault.message : ReadFault → String
  | .at cause offset line column =>
    cause.message ++ ": line " ++ toString line ++ " column " ++
      toString column ++
      " (char " ++ toString offset ++ ")"
  | .tooManyDigits count =>
    "Exceeds the limit (" ++ toString digitLimit ++
      " digits) for integer string conversion: value has " ++ toString count ++
      " digits; use sys.set_int_max_str_digits() to increase the limit"

/-- Reads a document under the usual limit. -/
def read (s : String) : Except ReadFault Json :=
  let chars := s.toList
  match readAll digitLimit chars with
  | .ok document => .ok document
  | .error stop => .error (stop.locate chars)

end PageFlow.Json
