import PageFlow.Decimal.Scientific
import PageFlow.Value.Display

/-!
# Messages with arguments

A message may have places for arguments. A place begins with a percent sign;
then come, if present, the name of an entry in parentheses, flags, a least
width, a precision, and a letter for the form of the argument. Two percent signs
stand for one.
-/

namespace PageFlow.Log.Message

open PageFlow.Decimal PageFlow.Text

/-- Why a message cannot be completed. -/
inductive Fault where
  | missing
  | surplus
  | mapping
  | noEntry (name : String)
  | incomplete
  | incompleteName
  | form (letter : Char) (index : Nat)
  | number (letter : Char) (kind : String)
  | integer (letter : Char) (kind : String)
  | real (kind : String)
  | character
  | characterSize
  | star
  | endless
  | undefined
  | size
  deriving DecidableEq, Repr

def Fault.message : Fault → String
  | .missing => "not enough arguments for format string"
  | .surplus => "not all arguments converted during string formatting"
  | .mapping => "format requires a mapping"
  | .noEntry name => quoted name
  | .incomplete => "incomplete format"
  | .incompleteName => "incomplete format key"
  | .form letter index =>
    "unsupported format character '" ++
      (if letter.toNat < 32 ∨ 126 < letter.toNat then "?"
        else letter.toString) ++
      "' (0x" ++ String.ofList (Nat.toDigits 16 letter.toNat) ++
        ") at index " ++ toString index
  | .number letter kind =>
    "%" ++ letter.toString ++ " format: a real number is required, not " ++ kind
  | .integer letter kind =>
    "%" ++ letter.toString ++ " format: an integer is required, not " ++ kind
  | .real kind => "must be real number, not " ++ kind
  | .character => "%c requires int or char"
  | .characterSize => "%c arg not in range(0x110000)"
  | .star => "* wants int"
  | .endless => "cannot convert float infinity to integer"
  | .undefined => "cannot convert float NaN to integer"
  | .size => "int too large to convert to float"

/-- The form that a place asks for. -/
structure Form where
  alternate : Bool
  zeros : Bool
  left : Bool
  blank : Bool
  plus : Bool
  width : Nat
  precision : Option Nat
  letter : Char
  deriving Repr

/-- The arguments: those not yet used of a list, or the entries of a mapping and
whether the mapping was used as a whole. -/
inductive Arguments where
  | list (rest : List Value)
  | mapping (entries : List (Value × Value)) (used : Bool)
  deriving Repr

def Arguments.next : Arguments → Except Fault (Value × Arguments)
  | .list [] => .error .missing
  | .list (value :: rest) => .ok (value, .list rest)
  | .mapping entries false => .ok (.dict entries, .mapping entries true)
  | .mapping _ true => .error .missing

def sign (form : Form) (negative : Bool) : List Char :=
  if negative then ['-'] else if form.plus then ['+']
    else if form.blank then [' '] else []

/-- Brings a text to the least width. A number may be filled with zeros behind
its sign. -/
def filled (form : Form) (numeric : Bool) (front body : List Char) :
    List Char :=
  let missing := form.width - (front.length + body.length)
  if form.left then front ++ body ++ List.replicate missing ' '
  else if numeric && form.zeros then front ++ List.replicate missing '0' ++ body
  else List.replicate missing ' ' ++ front ++ body

/-- A text, cut to the precision. -/
def textForm (form : Form) (text : String) : List Char :=
  let chars := text.toList
  filled form false [] (match form.precision with
    | none => chars
    | some most => chars.take most)

def integerForm (form : Form) (base : Nat) (mark : List Char) (n : Int) :
    List Char :=
  let digits := Nat.toDigits base n.natAbs
  let digits := if form.letter = 'X' then digits.map Char.toUpper else digits
  filled form true (sign form (n < 0) ++ if form.alternate then mark else [])
    (padZeros (form.precision.getD 0) digits)

/-- The integer that a decimal place shows: the part of a number in front of its
point. -/
def wholePart (form : Form) : Value → Except Fault Int
  | .bool b => .ok (if b then 1 else 0)
  | .int n => .ok n
  | .float (.finite negative units) =>
    let whole : Int := (units / Binary64.one : Nat)
    .ok (if negative then -whole else whole)
  | .float (.infinite _) => .error .endless
  | .float .nan => .error .undefined
  | other => .error (.number form.letter other.kindName)

/-- The integer that a place in another base shows. -/
def exactInteger (form : Form) : Value → Except Fault Int
  | .bool b => .ok (if b then 1 else 0)
  | .int n => .ok n
  | other => .error (.integer form.letter other.kindName)

/-- The number that a place with a fraction shows. -/
def real : Value → Except Fault Binary64
  | .bool b => .ok (.ofInt (if b then 1 else 0))
  | .int n =>
    match Binary64.ofInt n with
    | .infinite _ => .error .size
    | x => .ok x
  | .float x => .ok x
  | other => .error (.real other.kindName)

/-- Puts a point behind the digits of a number that has none, if the form asks
for one. -/
def withPoint (form : Form) (text : List Char) : List Char :=
  if form.alternate && !text.contains '.' then
    text.takeWhile (· ≠ 'e') ++ '.' :: text.dropWhile (· ≠ 'e')
  else text

/-- A number with a fraction. -/
def realForm (form : Form) (x : Binary64) : List Char :=
  let places := form.precision.getD 6
  let letter := form.letter.toLower
  let (negative, body) : Bool × List Char := match x with
    | .nan => (false, ['n', 'a', 'n'])
    | .infinite negative => (negative, ['i', 'n', 'f'])
    | .finite negative units =>
      (negative,
        if letter = 'f' then
          let text := (fixedText places units Binary64.one).toList
          if places = 0 && !form.alternate then text.filter (· ≠ '.') else text
        else if letter = 'e' then withPoint form (scientificText places units)
        else withPoint form (generalText places form.alternate units))
  let body := if form.letter.isUpper then body.map Char.toUpper else body
  filled form true (sign form negative) body

/-- Escapes everything outside ASCII. -/
def asciiOnly (s : String) : String :=
  String.ofList (s.toList.flatMap fun c =>
    if c.toNat < 0x80 then [c]
    else if c.toNat < 0x100 then '\\' :: 'x' :: hexDigits 2 c.toNat
    else if c.toNat < 0x10000 then '\\' :: 'u' :: hexDigits 4 c.toNat
    else '\\' :: 'U' :: hexDigits 8 c.toNat)

/-- One character, given as itself or by its code point. -/
def characterForm (form : Form) : Value → Except Fault (List Char)
  | .text s =>
    match s.toList with
    | [c] => .ok (filled form false [] [c])
    | _ => .error .character
  | .int n =>
    if 0 ≤ n ∧ n < 0x110000 then .ok (filled form false [] [Char.ofNat n.toNat])
    else .error .characterSize
  | .bool b => .ok (filled form false [] [Char.ofNat (if b then 1 else 0)])
  | _ => .error .character

/-- An argument in a form. `index` is the place of the letter in the message. -/
def present (form : Form) (index : Nat) (value : Value) :
    Except Fault (List Char) :=
  match form.letter with
  | 's' => .ok (textForm form value.display)
  | 'r' => .ok (textForm form value.inspect)
  | 'a' => .ok (textForm form (asciiOnly value.inspect))
  | 'c' => characterForm form value
  | 'd' | 'i' | 'u' => (wholePart form value).map (integerForm form 10 [])
  | 'x' => (exactInteger form value).map (integerForm form 16 ['0', 'x'])
  | 'X' => (exactInteger form value).map (integerForm form 16 ['0', 'X'])
  | 'o' => (exactInteger form value).map (integerForm form 8 ['0', 'o'])
  | 'e' | 'E' | 'f' | 'F' | 'g' | 'G' => (real value).map (realForm form)
  | letter => .error (.form letter index)

/-- A number at the front of a text: its digits, or the next argument for a
star. -/
def readSize (s : List Char) (arguments : Arguments) :
    Except Fault (Int × List Char × Arguments) :=
  match s with
  | '*' :: rest => do
    match ← arguments.next with
    | (.int n, arguments) => .ok (n, rest, arguments)
    | (.bool b, arguments) => .ok (if b then 1 else 0, rest, arguments)
    | _ => .error .star
  | _ =>
    let digits := s.takeWhile Char.isDigit
    .ok ((digits.foldl (fun n c => n * 10 + (c.toNat - 48)) 0 : Nat),
      s.drop digits.length, arguments)

/-- The name between the parentheses at the front of a place, and what follows.
Parentheses inside come in pairs; `depth` counts the open ones. -/
def closing? : Nat → List Char → Option (List Char × List Char)
  | _, [] => none
  | depth, c :: rest =>
    if c = ')' then
      match depth with
      | 0 => some ([], rest)
      | depth + 1 =>
          (closing? depth rest).map fun (name, after) => (c :: name, after)
    else
      (closing? (if c = '(' then depth + 1 else depth) rest).map
        fun (name, after) =>
        (c :: name, after)

/-- The arguments of a place with a name: the entry of the mapping, alone. -/
def entryArguments (arguments : Arguments) (name : String) :
    Except Fault Arguments :=
  match arguments with
  | .list _ => .error .mapping
  | .mapping entries _ =>
    match Value.find? entries name with
    | some value => .ok (.list [value])
    | none => .error (.noEntry name)

/-- A form that is read from the flags on, the text behind it, and the arguments
left. -/
def readForm (s : List Char) (arguments : Arguments) :
    Except Fault (Form × List Char × Arguments) := do
  let isFlag (c : Char) : Bool :=
    c == '-' || c == '+' || c == ' ' || c == '#' || c == '0'
  let flags := s.takeWhile isFlag
  let (width, rest, arguments) ← readSize (s.drop flags.length) arguments
  let (precision, rest, arguments) ← match rest with
    | '.' :: rest => do
      let (n, rest, arguments) ← readSize rest arguments
      pure (some n.toNat, rest, arguments)
    | rest => pure (none, rest, arguments)
  let rest := match rest with
    | 'h' :: more | 'l' :: more | 'L' :: more => more
    | more => more
  match rest with
  | [] => throw .incomplete
  | letter :: rest =>
    let form : Form :=
      { alternate := flags.contains '#', zeros := flags.contains '0'
        left := flags.contains '-' || width < 0, blank := flags.contains ' '
        plus := flags.contains '+', width := width.natAbs, precision, letter }
    return (form, rest, arguments)

/-- The text of one place, behind its percent sign; what follows it; and the
arguments left. `total` is the length of the message. -/
def place (total : Nat) (s : List Char) (arguments : Arguments) :
    Except Fault (List Char × List Char × Arguments) := do
  let (named, rest) ← match s with
    | '(' :: rest =>
      match arguments with
      | .list _ => throw .mapping
      | _ =>
        match closing? 0 rest with
        | none => throw .incompleteName
        | some (name, rest) => pure (some (String.ofList name), rest)
    | rest => pure (none, rest)
  let own ← match named with
    | none => pure arguments
    | some name => entryArguments arguments name
  let (form, rest, left) ← readForm rest own
  let (value, left) ← left.next
  let text ← present form (total - rest.length - 1) value
  return (text, rest, if named.isSome then arguments else left)

/-- Puts arguments into the places of the rest of a message. `fuel` bounds the
places. -/
def complete (total : Nat) :
    Nat → List Char → Arguments → Except Fault (List Char)
  | 0, s, _ => .ok s
  | fuel + 1, s, arguments => do
    let plain := s.takeWhile (· ≠ '%')
    match s.drop plain.length with
    | [] =>
      match arguments with
      | .list (_ :: _) => throw .surplus
      | _ => return plain
    | _ :: '%' :: rest =>
        return plain ++ '%' :: (← complete total fuel rest arguments)
    | _ :: rest =>
      let (text, rest, arguments) ← place total rest arguments
      return plain ++ text ++ (← complete total fuel rest arguments)

/-- The message with its arguments. Without arguments it stays as it is; a
single mapping that has entries is looked up by name. -/
def text (message : String) (arguments : List Value) : Except Fault String :=
  let chars := message.toList
  let total := chars.length
  match arguments with
  | [] => .ok message
  | [.dict (entry :: entries)] =>
    (complete total (total + 1) chars (.mapping (entry :: entries) false)).map
      String.ofList
  | arguments =>
      (complete total (total + 1) chars (.list arguments)).map String.ofList

end PageFlow.Log.Message
