import PageFlow.Decimal.Layout
import PageFlow.Json
import PageFlow.Text.Quoted

/-!
# Writing JSON

Two layouts of a document: on one line with a blank after every comma and colon,
and over several lines indented by two blanks per level. A text is written with
its own characters, or with escapes for everything outside ASCII.
-/

namespace PageFlow.Json

open PageFlow.Decimal PageFlow.Text

/-- Which characters a text may show as themselves. -/
inductive Charset where
  | unicode
  | ascii
  deriving DecidableEq, Repr

/-- An escape by code unit. -/
def unitEscape (unit : Nat) : List Char :=
  '\\' :: 'u' :: hexDigits 4 unit

/-- One character of a text. Outside the basic plane an escape is a pair of code
units. -/
def escapeChar (charset : Charset) (c : Char) : List Char :=
  if c = '"' then ['\\', '"']
  else if c = '\\' then ['\\', '\\']
  else if c = '\n' then ['\\', 'n']
  else if c = '\r' then ['\\', 'r']
  else if c = '\t' then ['\\', 't']
  else if c.toNat = 12 then ['\\', 'f']
  else if c.toNat = 8 then ['\\', 'b']
  else if c.toNat < 0x20 then unitEscape c.toNat
  else match charset with
    | .unicode => [c]
    | .ascii =>
      if c.toNat < 0x7f then [c]
      else if c.toNat < 0x10000 then unitEscape c.toNat
      else
        let above := c.toNat - 0x10000
        unitEscape (0xd800 + above / 0x400) ++
          unitEscape (0xdc00 + above % 0x400)

/-- A text between double quotes. -/
def textChars (charset : Charset) (s : String) : List Char :=
  '"' :: s.toList.flatMap (escapeChar charset) ++ ['"']

/-- The form of a number with a fraction or an exponent. -/
def floatText : Binary64 → String
  | .nan => "NaN"
  | .infinite negative => if negative then "-Infinity" else "Infinity"
  | finite => finite.text

mutual

/-- A document on one line. -/
def lineChars (charset : Charset) : Json → List Char
  | .null => ['n', 'u', 'l', 'l']
  | .bool true => ['t', 'r', 'u', 'e']
  | .bool false => ['f', 'a', 'l', 's', 'e']
  | .int n => (intText n).toList
  | .float x => (floatText x).toList
  | .text s => textChars charset s
  | .array items => '[' :: lineItems charset items ++ [']']
  | .object members => '{' :: lineMembers charset members ++ ['}']

/-- Items on one line, separated by a comma and a blank. -/
def lineItems (charset : Charset) : List Json → List Char
  | [] => []
  | [item] => lineChars charset item
  | item :: rest =>
      lineChars charset item ++ ',' :: ' ' :: lineItems charset rest

/-- Members on one line, separated by a comma and a blank. -/
def lineMembers (charset : Charset) : List (String × Json) → List Char
  | [] => []
  | [(name, value)] =>
      textChars charset name ++ ':' :: ' ' :: lineChars charset value
  | (name, value) :: rest =>
    textChars charset name ++ ':' :: ' ' :: lineChars charset value ++
      ',' :: ' ' :: lineMembers charset rest

end

/-- A line feed and the blanks of a level. -/
def newline (level : Nat) : List Char :=
  '\n' :: List.replicate (2 * level) ' '

mutual

/-- A document whose parts stand on lines of their own, at the given level. An
empty array or object stays on one line. -/
def blockChars (charset : Charset) (level : Nat) : Json → List Char
  | .array [] => ['[', ']']
  | .array items =>
    '[' :: newline (level + 1) ++ blockItems charset (level + 1) items ++
      newline level ++ [']']
  | .object [] => ['{', '}']
  | .object members =>
    '{' :: newline (level + 1) ++ blockMembers charset (level + 1) members ++
      newline level ++ ['}']
  | .null => ['n', 'u', 'l', 'l']
  | .bool true => ['t', 'r', 'u', 'e']
  | .bool false => ['f', 'a', 'l', 's', 'e']
  | .int n => (intText n).toList
  | .float x => (floatText x).toList
  | .text s => textChars charset s

def blockItems (charset : Charset) (level : Nat) : List Json → List Char
  | [] => []
  | [item] => blockChars charset level item
  | item :: rest =>
    blockChars charset level item ++ ',' :: newline level ++
      blockItems charset level rest

def blockMembers (charset : Charset) (level : Nat) :
    List (String × Json) → List Char
  | [] => []
  | [(name, value)] =>
      textChars charset name ++ ':' :: ' ' :: blockChars charset level value
  | (name, value) :: rest =>
    textChars charset name ++ ':' :: ' ' :: blockChars charset level value ++
      ',' :: newline level ++ blockMembers charset level rest

end

def line (document : Json) : String :=
  String.ofList (lineChars .unicode document)

/-- The text of a document over several lines. -/
def block (charset : Charset) (document : Json) : String :=
  String.ofList (blockChars charset 0 document)

end PageFlow.Json
