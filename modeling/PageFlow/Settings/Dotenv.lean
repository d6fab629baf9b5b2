import PageFlow.Environment
import PageFlow.Text.Blank

/-!
# Files of settings

A file of settings gives one name per line, with its text behind an equals sign.
Texts may stand in quotes and then run over several lines; without quotes a
comment ends them. A reference `${NAME}`, or `${NAME:-text}` with a text for
unknown names, stands for a name given earlier in the file or in the
environment. Lines that do not fit are passed over.
-/

namespace PageFlow.Dotenv

open PageFlow.Text

def isLineEnd (c : Char) : Bool :=
  c == '\n' || c == '\r'

/-- A blank within a line. -/
def isInlineBlank (c : Char) : Bool :=
  isBlank c && !isLineEnd c

/-- The text after the blanks at its front that stay within the line. -/
def skipInline (s : List Char) : List Char :=
  s.dropWhile isInlineBlank

/-- What follows the end of the line. -/
def afterLine (s : List Char) : List Char :=
  match s.dropWhile (!isLineEnd ·) with
  | '\r' :: rest => rest
  | '\n' :: rest => rest
  | rest => rest

/-- The text up to the first quote without a backslash in front of it, and what
follows. `escaped` says whether there is a backslash in front of the text. -/
def plainQuote? (mark : Char) (escaped : Bool) :
    List Char → Option (List Char × List Char)
  | [] => none
  | c :: rest =>
    if c = mark ∧ !escaped then some ([], rest)
    else (plainQuote? mark (c == '\\') rest).map fun (body, after) =>
      (c :: body, after)

/-- The text up to the last quote, and what follows. -/
def lastQuote? (mark : Char) (s : List Char) : Option (List Char × List Char) :=
  let after := (s.reverse.takeWhile (· ≠ mark)).reverse
  if after.length = s.length then none
  else some (s.take (s.length - after.length - 1), after)

/-- The text up to the closing quote, and what follows. A backslash keeps a
quote from closing, unless nothing else closes: then the last quote does. -/
def quotedBody? (mark : Char) (s : List Char) :
    Option (List Char × List Char) :=
  (plainQuote? mark false s).or (lastQuote? mark s)

def escapeOf? (c : Char) : Option Char :=
  match c with
  | '\\' => some '\\'
  | '\'' => some '\''
  | '"' => some '"'
  | 'a' => some (Char.ofNat 7)
  | 'b' => some (Char.ofNat 8)
  | 'f' => some (Char.ofNat 12)
  | 'n' => some '\n'
  | 'r' => some '\r'
  | 't' => some '\t'
  | 'v' => some (Char.ofNat 11)
  | _ => none

/-- Resolves the escapes of a quoted text. In single quotes only quotes and
backslashes have one. -/
def unescape (double : Bool) : List Char → List Char
  | '\\' :: c :: rest =>
    match escapeOf? c with
    | some escaped =>
      if double || c == '\\' || c == '\'' then escaped :: unescape double rest
      else '\\' :: unescape double (c :: rest)
    | none => '\\' :: unescape double (c :: rest)
  | c :: rest => c :: unescape double rest
  | [] => []

/-- The text before a blank that a comment follows. -/
def beforeComment : List Char → List Char
  | [] => []
  | c :: rest =>
    if isBlank c && (rest.dropWhile isBlank).head? == some '#' then []
    else c :: beforeComment rest

/-- The text behind the equals sign, and what follows. -/
def value? (s : List Char) : Option (List Char × List Char) :=
  match s with
  | '\'' :: rest =>
      (quotedBody? '\'' rest).map fun (body, after) =>
        (unescape false body, after)
  | '"' :: rest =>
      (quotedBody? '"' rest).map fun (body, after) =>
        (unescape true body, after)
  | [] => some ([], [])
  | _ =>
    let line := s.takeWhile (!isLineEnd ·)
    some (trimBack (beforeComment line), s.drop line.length)

/-- The text after the word that may stand in front of a name. -/
def skipExport (s : List Char) : List Char :=
  let word := "export".toList
  if word.isPrefixOf s && (s.drop word.length).head?.any isInlineBlank then
    skipInline (s.drop word.length)
  else s

/-- A name, or none in front of a comment, and what follows. -/
def name? (s : List Char) : Option (Option (List Char) × List Char) :=
  match s with
  | '#' :: _ => some (none, s)
  | '\'' :: rest =>
    let body := rest.takeWhile (· ≠ '\'')
    if body.isEmpty then none
    else match rest.drop body.length with
      | _ :: after => some (some body, after)
      | [] => none
  | _ =>
    let body := s.takeWhile fun c => !(c == '=' || c == '#' || isBlank c)
    if body.isEmpty then none else some (some body, s.drop body.length)

/-- What follows a comment and the end of the line. Nothing else may stand
before it. -/
def endLine? (s : List Char) : Option (List Char) :=
  let rest := skipInline s
  let rest := if rest.head? = some '#' then rest.dropWhile (!isLineEnd ·) else s
  match skipInline rest with
  | [] => some []
  | '\r' :: '\n' :: rest => some rest
  | c :: rest => if isLineEnd c then some rest else none

/-- What a line gives: a name with its text, if it has one, or nothing. -/
structure Binding where
  name : Option (List Char)
  text : Option (List Char)

/-- The binding at the front of a text, and what follows. The place where a line
does not fit is given instead. -/
def binding (s : List Char) : Except (List Char) (Binding × List Char) :=
  let s := skipExport s
  match name? s with
  | none => .error s
  | some (name, rest) =>
    let rest := skipInline rest
    match rest with
    | '=' :: rest =>
      let rest := skipInline rest
      match value? rest with
      | none => .error rest
      | some (text, rest) =>
        match endLine? rest with
        | none => .error rest
        | some rest => .ok (⟨name, some text⟩, rest)
    | rest =>
      match endLine? rest with
      | none => .error rest
      | some rest => .ok (⟨name, none⟩, rest)

/-- The names of a text with what they are given, in order. A name that stands
alone is given nothing. -/
def bindings : Nat → List Char → List (List Char × Option (List Char))
  | 0, _ => []
  | fuel + 1, s =>
    match s.dropWhile isBlank with
    | [] => []
    | s =>
      match binding s with
      | .error place => bindings fuel (afterLine place)
      | .ok (⟨some name, text⟩, rest) => (name, text) :: bindings fuel rest
      | .ok (⟨none, _⟩, rest) => bindings fuel rest

/-- The name and the text for unknown names of a reference behind its opening
brace, and what follows. -/
def reference? (s : List Char) : Option (List Char × List Char × List Char) :=
  let name := s.takeWhile fun c => c != '}' && c != ':'
  match s.drop name.length with
  | '}' :: rest => some (name, [], rest)
  | ':' :: '-' :: rest =>
    let other := rest.takeWhile (· ≠ '}')
    match rest.drop other.length with
    | '}' :: after => some (name, other, after)
    | _ => none
  | _ => none

def expand (known : Environment) : Nat → List Char → List Char
  | 0, s => s
  | fuel + 1, s =>
    match s with
    | [] => []
    | '$' :: '{' :: rest =>
      match reference? rest with
      | some (name, other, after) =>
        (match known.find? (String.ofList name) with
          | some text => text.toList
          | none => other) ++ expand known fuel after
      | none => '$' :: expand known fuel ('{' :: rest)
    | c :: rest => c :: expand known fuel rest

/-- The names with their texts, references replaced. Names of the file are known
to later lines; a reference to one that is given nothing stands for an empty
text. -/
def resolve (environment : Environment) :
    List (List Char × Option (List Char)) → List (String × Option String)
  | [] => []
  | (name, text) :: rest =>
    let name := String.ofList name
    let text :=
      text.map fun text =>
        String.ofList (expand environment (text.length + 1) text)
    (name, text) :: resolve (environment.insert name (text.getD "")) rest

def read (environment : Environment) (s : String) :
    List (String × Option String) :=
  resolve environment (bindings (s.length + 1) s.toList)

end PageFlow.Dotenv
