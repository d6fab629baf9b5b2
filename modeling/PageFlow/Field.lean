import PageFlow.Text.Blank
import PageFlow.Text.Case
import PageFlow.Text.Utf8
import PageFlow.Json.Reader
import PageFlow.Value

/-!
# Fields

Checked reading of one value as a text, an integer, a number or a truth value.
Texts that spell a number are read as one. Every refusal has a cause, and a
problem is a cause at a place.
-/

namespace PageFlow

open PageFlow.Decimal PageFlow.Text

/-- Why a value does not fit a field. -/
inductive FieldCause where
  | missing
  | text
  | textEncoding
  | integer
  | integerSpelling
  | integerFraction
  | integerSize
  | number
  | numberSpelling
  | notFinite
  | truth
  | truthSpelling
  | atLeast (bound : Int)
  | atMost (bound : Int)
  | choice (names : List String)
  | path
  | rule (wording : String)
  deriving DecidableEq, Repr

/-- Alternatives with `or` before the last one. -/
def alternatives : List String → String
  | [] => ""
  | [name] => name
  | [first, last] => first ++ " or " ++ last
  | name :: rest => name ++ ", " ++ alternatives rest

def FieldCause.message : FieldCause → String
  | .missing => "Field required"
  | .text => "Input should be a valid string"
  | .textEncoding =>
    "Input should be a valid string, unable to parse raw data as a unicode " ++
      "string"
  | .integer => "Input should be a valid integer"
  | .integerSpelling =>
      "Input should be a valid integer, unable to parse string as an integer"
  | .integerFraction =>
      "Input should be a valid integer, got a number with a fractional part"
  | .integerSize =>
      "Unable to parse input string as an integer, exceeded maximum size"
  | .number => "Input should be a valid number"
  | .numberSpelling =>
      "Input should be a valid number, unable to parse string as a number"
  | .notFinite => "Input should be a finite number"
  | .truth => "Input should be a valid boolean"
  | .truthSpelling =>
      "Input should be a valid boolean, unable to interpret input"
  | .atLeast bound =>
      "Input should be greater than or equal to " ++ intText bound
  | .atMost bound => "Input should be less than or equal to " ++ intText bound
  | .choice names =>
      "Input should be " ++ alternatives
        (names.map fun name => "'" ++ name ++ "'")
  | .path => "Input is not a valid path for <class 'pathlib.Path'>"
  | .rule wording => "Value error, " ++ wording

/-- A cause at a place; the place is a list of names. -/
structure Problem where
  place : List String
  cause : FieldCause
  deriving DecidableEq, Repr

/-- The place with dots between its names. -/
def Problem.placeText (problem : Problem) : String :=
  ".".intercalate problem.place

namespace Field

/-- The blanks that may stand around a spelled number: all but the four ASCII
separators. -/
def isSpace (c : Char) : Bool :=
  isBlank c && !(0x1c ≤ c.toNat && c.toNat ≤ 0x1f)

/-- A text without the spaces around it. -/
def strip (s : List Char) : List Char :=
  ((s.dropWhile isSpace).reverse.dropWhile isSpace).reverse

/-- A text, or bytes that encode one. -/
def text (value : Value) : Except FieldCause String :=
  match value with
  | .text s => .ok s
  | .bytes data =>
    match decodeUtf8 data with
    | .ok s => .ok s
    | .error _ => .error .textEncoding
  | _ => .error .text

/-- Two underscores stand side by side. -/
def doubled : List Char → Bool
  | '_' :: '_' :: _ => true
  | _ :: rest => doubled rest
  | [] => false

/-- The digits of a text, of which underscores may stand in front of all but the
first, one at a time. `loose` lets one stand in front of the first, too. -/
def ungrouped? (loose : Bool) (s : List Char) : Option (List Char) :=
  let digits := s.filter (· ≠ '_')
  if !digits.isEmpty && digits.all Char.isDigit && s.getLast? != some '_' &&
      !doubled s &&
      (loose || s.head? != some '_') then
    some digits
  else none

/-- The number of digits with single underscores between them. -/
def grouped? (s : List Char) : Option Nat :=
  (ungrouped? false s).map Json.digitsValue

/-- A whole number spelled with a point has nothing but zeros after it. -/
def withoutZeros? (s : List Char) : Option (List Char) :=
  match s.span (· ≠ '.') with
  | (whole, []) => some whole
  | (whole, _ :: zeros) =>
      if !zeros.isEmpty && zeros.all (· == '0') then some whole else none

/-- A text that begins with a zero, without the zeros and underscores at its
front. If there is nothing else, the last of them stays. -/
def withoutLead (s : List Char) : List Char :=
  if s.head? = some '0' then
    match s.dropWhile fun c => c == '0' || c == '_' with
    | [] => s.drop (s.length - 1)
    | rest => rest
  else s

/-- The number below zero that digits spell. Its first digit is no zero unless
it is the only one. -/
def negative? (s : List Char) : Option Int :=
  match ungrouped? true s with
  | some ['0'] => some 0
  | some ('0' :: _) => none
  | digits => digits.map fun digits => -(Json.digitsValue digits : Int)

/-- A spelled integer: a sign, digits in groups, and zeros after a point. -/
def spelledInteger? (s : List Char) : Option Int := do
  match ← withoutZeros? s with
  | '-' :: digits => negative? digits
  | '+' :: digits => (grouped? (withoutLead digits)).map Int.ofNat
  | digits => (grouped? (withoutLead digits)).map Int.ofNat

/-- A text that spells an integer. -/
def integerOfText (s : String) : Except FieldCause Int :=
  let chars := strip s.toList
  if Json.digitLimit < (String.ofList chars).utf8ByteSize then
    .error .integerSize
  else match spelledInteger? chars with
    | some n => .ok n
    | none => .error .integerSpelling

/-- A number without a fraction, within 64 bits. -/
def integerOfFloat (x : Binary64) : Except FieldCause Int :=
  match x with
  | .finite .. =>
    match x.toInt? with
    | none => .error .integerFraction
    | some n =>
        if n.natAbs < 9223372036854775808 then .ok n else .error .integerSize
  | _ => .error .notFinite

/-- An integer, a truth value, a number without a fraction, or a text that
spells an integer. -/
def integer (value : Value) : Except FieldCause Int :=
  match value with
  | .int n => .ok n
  | .bool b => .ok (if b then 1 else 0)
  | .float x => integerOfFloat x
  | .text s => integerOfText s
  | .bytes data =>
    match decodeUtf8 data with
    | .ok s => integerOfText s
    | .error _ => .error .integerSpelling
  | _ => .error .integer

/-- Words for the numbers that are not finite, in any case. -/
def wordFloat? (s : List Char) : Option Binary64 :=
  let word := lowerAscii (String.ofList s)
  if word = "inf" ∨ word = "infinity" then some (.infinite false)
  else if word = "nan" then some .nan
  else none

/-- Digits with a point, a fraction and an exponent; digits stand before or
after the point. -/
def plainFloat? (negative : Bool) (s : List Char) : Option Binary64 :=
  let (whole, rest) := Json.splitDigits s
  let (fraction, rest) := match rest with
    | '.' :: rest => Json.splitDigits rest
    | rest => ([], rest)
  if whole.isEmpty && fraction.isEmpty then none
  else
    let power := -(fraction.length : Int)
    let digits := Json.digitsValue (whole ++ fraction)
    match rest with
    | [] => some (.ofDecimal negative digits power)
    | _ =>
      match Json.splitExponent rest with
      | (some exponent, []) =>
          some (.ofDecimal negative digits (power + exponent))
      | _ => none

/-- A spelled number without its sign. -/
def unsignedFloat? (negative : Bool) (s : List Char) : Option Binary64 :=
  match wordFloat? s with
  | some (.infinite _) => some (.infinite negative)
  | some x => some x
  | none => plainFloat? negative s

/-- A spelled number. -/
def spelledFloat? : List Char → Option Binary64
  | '-' :: rest => unsignedFloat? true rest
  | '+' :: rest => unsignedFloat? false rest
  | s => unsignedFloat? false s

/-- A number in which single underscores stand, but not at its ends. -/
def groupedFloat? (s : List Char) : Option Binary64 :=
  if s.head? = some '_' || s.getLast? = some '_' || doubled s then none
  else spelledFloat? (s.filter (· ≠ '_'))

/-- A text that spells a number. There may be spaces around it, or else
underscores inside it. -/
def floatOfText (s : String) : Except FieldCause Binary64 :=
  match (spelledFloat? (strip s.toList)).or (groupedFloat? s.toList) with
  | some x => .ok x
  | none => .error .numberSpelling

/-- A number, a truth value or a text that spells a number. An integer has to be
within the range of double precision. -/
def float (value : Value) : Except FieldCause Binary64 :=
  match value with
  | .float x => .ok x
  | .bool b => .ok (.ofInt (if b then 1 else 0))
  | .int n =>
    let x := Binary64.ofInt n
    if x.isFinite then .ok x else .error .number
  | .text s => floatOfText s
  | .bytes data =>
    match decodeUtf8 data with
    | .ok s => floatOfText s
    | .error _ => .error .numberSpelling
  | _ => .error .number

/-- A finite number that is not below zero. -/
def duration (value : Value) : Except FieldCause Binary64 := do
  let x ← float value
  if !x.isFinite then throw .notFinite
  if x.isNegative then throw (.atLeast 0)
  return x

/-- An integer within bounds. -/
def bounded (least : Option Int) (most : Option Int) (value : Value) :
    Except FieldCause Int := do
  let n ← integer value
  if let some bound := least then
    if n < bound then throw (.atLeast bound)
  if let some bound := most then
    if bound < n then throw (.atMost bound)
  return n

/-- A word for a truth value, in any case. -/
def truthOfText (s : String) : Except FieldCause Bool :=
  let word := lowerAscii s
  if word ∈ ["true", "t", "yes", "y", "on", "1"] then .ok true
  else if word ∈ ["false", "f", "no", "n", "off", "0"] then .ok false
  else .error .truthSpelling

/-- A truth value, a word for one, or the numbers zero and one. -/
def truth (value : Value) : Except FieldCause Bool :=
  match value with
  | .bool b => .ok b
  | .text s => truthOfText s
  | .bytes data =>
    match decodeUtf8 data with
    | .ok s => truthOfText s
    | .error _ => .error .truthSpelling
  | .int n => ofInt n
  | .float x =>
    match x.toInt? with
    | some n => ofInt n
    | none => .error .truth
  | _ => .error .truth
where
  /-- Zero and one are truth values. -/
  ofInt (n : Int) : Except FieldCause Bool :=
    if n = 0 then .ok false else if n = 1 then .ok true
      else .error .truthSpelling

/-- Puts the cause of a refusal at its place. -/
def placed (place : List String) (result : Except FieldCause α) :
    Except (List Problem) α :=
  match result with
  | .ok x => .ok x
  | .error cause => .error [⟨place, cause⟩]

/-- The problems of a result, none if it was read. -/
def problems : Except (List Problem) α → List Problem
  | .ok _ => []
  | .error found => found

end Field

end PageFlow
