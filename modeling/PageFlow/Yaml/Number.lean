import PageFlow.Decimal.Binary64
import PageFlow.Field
import PageFlow.Text.Digit
import PageFlow.Yaml.Fault
import PageFlow.Yaml.Tag

/-!
# Values of YAML scalars

The value of a scalar of a given kind. Underscores in numbers are dropped. A
scalar whose kind was given by a tag may fail to have a value of that kind.
-/

namespace PageFlow.Yaml

open PageFlow.Decimal PageFlow.Text

def digitValue? (base : Nat) (c : Char) : Option Nat :=
  match Json.hexValue? c with
  | some n => if n < base then some n else none
  | none => none

/-- The natural number that digits write in a base. -/
def natOfDigits? (base : Nat) (s : List Char) : Option Nat :=
  if s.isEmpty then none
  else s.foldlM (fun n c => (digitValue? base c).map (base * n + ·)) 0

/-- Digits after a marker of their base, such as `0o`. -/
def withoutMarker (base : Nat) (s : List Char) : List Char :=
  match s with
  | '0' :: c :: rest =>
    if (base == 8 && (c == 'o' || c == 'O')) ||
        (base == 16 && (c == 'x' || c == 'X')) ||
        (base == 2 && (c == 'b' || c == 'B')) then rest
    else s
  | _ => s

/-- An integer in a base, with a sign and blanks around it. The digits are of
any script; in base ten those at the front may not be too many, whatever follows
them. -/
def integerIn (base : Nat) (s : List Char) : Except Fault Int :=
  let (negative, digits) := match (Field.strip s).map asciiDigit with
    | '-' :: rest => (true, rest)
    | '+' :: rest => (false, rest)
    | rest => (false, rest)
  let digits := withoutMarker base digits
  let count := (digits.takeWhile Char.isDigit).length
  if base = 10 ∧ Json.digitLimit < count then .error (.tooManyDigits count)
  else match natOfDigits? base digits with
    | none => .error (.integer base (String.ofList s))
    | some n => .ok (if negative then -n else n)

/-- The sign of a number and the text behind it. There has to be some text. -/
def splitSign (s : List Char) : Except Fault (Bool × List Char) :=
  match s with
  | [] => .error .emptyNumber
  | '-' :: rest => .ok (true, rest)
  | '+' :: rest => .ok (false, rest)
  | _ => .ok (false, s)

def unsignedInteger (s : List Char) : Except Fault Int :=
  match s with
  | [] => .error .emptyNumber
  | ['0'] => .ok 0
  | '0' :: 'b' :: rest => integerIn 2 rest
  | '0' :: 'x' :: rest => integerIn 16 rest
  | '0' :: _ => integerIn 8 s
  | _ =>
    if s.contains ':' then do
      let parts ← (s.splitOn ':').mapM (integerIn 10)
      return parts.foldl (fun n part => 60 * n + part) 0
    else integerIn 10 s

def integerValue (text : String) : Except Fault Value := do
  let (negative, s) ← splitSign (text.toList.filter (· ≠ '_'))
  let n ← unsignedInteger s
  return .int (if negative then -n else n)

/-- A number in base ten, with blanks around it and digits of any script. -/
def numberIn (s : List Char) : Except Fault Binary64 :=
  match Field.spelledFloat? ((Field.strip s).map asciiDigit) with
  | some x => .ok x
  | none => .error (.number (String.ofList s))

/-- The sum of the parts of a number in base sixty, the last one first. The
weights of the parts are rounded and must not be too large for that; then each
product and each sum is rounded in turn. -/
def sumSixties (total : Binary64) (weight : Nat) :
    List Binary64 → Except Fault Binary64
  | [] => .ok total
  | part :: rest =>
    let rounded := Binary64.ofInt weight
    if rounded.isFinite then sumSixties (total.add (part.mul rounded))
      (weight * 60) rest
    else .error .numberSize

def unsignedNumber (s : List Char) : Except Fault Binary64 :=
  if s = ".inf".toList then .ok (.infinite false)
  else if s = ".nan".toList then .ok .nan
  else if s.contains ':' then do
    let parts ← (s.splitOn ':').mapM numberIn
    sumSixties (.finite false 0) 1 parts.reverse
  else numberIn s

def numberValue (text : String) : Except Fault Value := do
  let (negative, s) ← splitSign (lowerChars (text.toList.filter (· ≠ '_')))
  let x ← unsignedNumber s
  return .float (if negative then x.negate else x)

def truthValue (text : String) : Except Fault Value :=
  let word := lower text
  if ["yes", "true", "on"].contains word then .ok (.bool true)
  else if ["no", "false", "off"].contains word then .ok (.bool false)
  else .error (.truth word)

/-- The value of a letter or a sign in base sixty-four. -/
def sextet? (c : Char) : Option Nat :=
  if 'A' ≤ c ∧ c ≤ 'Z' then some (c.toNat - 65)
  else if 'a' ≤ c ∧ c ≤ 'z' then some (c.toNat - 71)
  else if '0' ≤ c ∧ c ≤ '9' then some (c.toNat + 4)
  else if c = '+' then some 62
  else if c = '/' then some 63
  else none

/-- Bytes from groups of four letters. `held` letters of a group are kept in
`left`, and `pads` padding signs have come in a row. Other characters are passed
over; the padding of a group ends the text. A group must not stay open. -/
def bytesOfLetters (held left pads : Nat) : List Char → Option (List UInt8)
  | [] => if held = 0 then some [] else none
  | c :: rest =>
    if c = '=' then
      if 2 ≤ held then
        if 4 ≤ held + (pads + 1) then some []
          else bytesOfLetters held left (pads + 1) rest
      else bytesOfLetters held left pads rest
    else match sextet? c with
      | none => bytesOfLetters held left pads rest
      | some n =>
        if held = 0 then bytesOfLetters 1 n 0 rest
        else if held = 1 then
          (bytesOfLetters 2 (n % 16) 0 rest).map
            (UInt8.ofNat (left * 4 + n / 16) :: ·)
        else if held = 2 then
          (bytesOfLetters 3 (n % 4) 0 rest).map
            (UInt8.ofNat (left * 16 + n / 4) :: ·)
        else (bytesOfLetters 0 0 0 rest).map (UInt8.ofNat (left * 64 + n) :: ·)

def binaryValue (text : String) : Except Fault Value :=
  let s := text.toList
  if s.all (·.toNat < 128) then
    match bytesOfLetters 0 0 0 s with
    | some data => .ok (.bytes data)
    | none => .error .malformed
  else .error .malformed

/-- Microseconds of the digits of a fraction; digits beyond the sixth are
dropped. -/
def microseconds (fraction : List Char) : Nat :=
  let digits := fraction.take 6
  Json.digitsValue digits * Nat.pow 10 (6 - digits.length)

/-- The offset of a time in seconds. -/
def offsetOf (clock : Spelling.ClockParts) : Option Int :=
  match clock.sign with
  | some sign =>
    let seconds : Int :=
      Json.digitsValue clock.offsetHour * 3600 + Json.digitsValue
        clock.offsetMinute * 60
    some (if sign = '-' then -seconds else seconds)
  | none => if clock.zulu then some 0 else none

/-- The value of a date, or of a date and time. -/
def timestampValue (text : String) : Except Fault Value :=
  match Spelling.splitStamp (Spelling.withoutBreak text.toList) with
  | none => .error .timestamp
  | some parts =>
    let number := Json.digitsValue
    match parts.clock with
    | none =>
      match Calendar.date? (number parts.year) (number parts.month)
        (number parts.day) with
      | .ok day => .ok (.date day)
      | .error fault => .error (.calendar fault)
    | some clock =>
      match Calendar.dateTime? (number parts.year) (number parts.month)
          (number parts.day)
          (number clock.hour) (number clock.minute) (number clock.second)
          (microseconds clock.fraction) (offsetOf clock) with
      | .ok moment => .ok (.time moment)
      | .error fault => .error (.calendar fault)

def scalarValue (kind : Kind) (text : String) : Except Fault Value :=
  match kind with
  | .null => .ok .null
  | .truth => truthValue text
  | .int => integerValue text
  | .float => numberValue text
  | .binary => binaryValue text
  | .timestamp => timestampValue text
  | .text => .ok (.text text)
  | _ => .error .malformed

end PageFlow.Yaml
