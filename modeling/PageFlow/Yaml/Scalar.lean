import PageFlow.Json.Reader
import PageFlow.Yaml.Cursor
import PageFlow.Yaml.Fault

/-!
# Scalars of YAML

The text of a scalar in each of its styles: plain, quoted with single or double
quotes, and block scalars, literal or folded. Line ends inside a flow scalar
fold into blanks; an empty line keeps its line end.
-/

namespace PageFlow.Yaml

/-- A text and the place after it. -/
abbrev Read := Except Fault (List Char × Cursor)

/-- The characters that stand for structure inside brackets and braces. -/
def isFlowMark (c : Char) : Bool :=
  c == ',' || c == '[' || c == ']' || c == '{' || c == '}'

/-- The text of a fold: the end of a line and the empty lines after it. -/
def folded (lineEnd empty : List Char) : List Char :=
  if lineEnd != ['\n'] then lineEnd ++ empty
  else if empty.isEmpty then [' ']
  else empty

/-! ## Plain scalars -/

/-- The front of a text up to where a plain scalar has to pause or to stop. -/
def plainWord (inFlow : Bool) : List Char → List Char
  | [] => []
  | c :: rest =>
    if endsWord (some c) ||
        (c == ':' &&
          (endsWord rest.head? || (inFlow && rest.head?.any isFlowMark))) ||
        (inFlow && (isFlowMark c || c == '?')) then []
    else c :: plainWord inFlow rest

/-- Empty lines and blanks before the next word; `none` if a document marker
stands there. -/
def plainEmptyLines : Nat → List Char → Cursor → Option (List Char) × Cursor
  | 0, lines, cursor => (some lines, cursor)
  | fuel + 1, lines, cursor =>
    match cursor.peek? with
    | some c =>
      if c = ' ' then plainEmptyLines fuel lines cursor.next
      else if isBreak c then
        let (lineEnd, cursor) := cursor.lineBreak
        if cursor.atMarker then (none, cursor)
          else plainEmptyLines fuel (lines ++ lineEnd) cursor
      else (some lines, cursor)
    | none => (some lines, cursor)

/-- What stands between two words of a plain scalar, whether a line ended, and
the place after it. No text means that the scalar ends. -/
def plainGap (cursor : Cursor) : List Char × Bool × Cursor :=
  let (blanks, cursor) := cursor.takeWhile (· == ' ')
  match cursor.lineBreak with
  | ([], _) => (blanks, false, cursor)
  | (lineEnd, cursor) =>
    if cursor.atMarker then ([], true, cursor)
    else match plainEmptyLines (cursor.rest.length + 1) [] cursor with
      | (none, cursor) => ([], true, cursor)
      | (some empty, cursor) => (folded lineEnd empty, true, cursor)

/-- The words of a plain scalar. `gap` is what stands before the next one. Gives
the text, whether the last thing read was the end of a line, and the place after
it. -/
def plainWords (inFlow : Bool) (indent : Int) :
    Nat → List Char → List Char → Bool → Cursor → List Char × Bool × Cursor
  | 0, text, _, ended, cursor => (text, ended, cursor)
  | fuel + 1, text, gap, ended, cursor =>
    match cursor.peek? with
    | some '#' => (text, ended, cursor)
    | _ =>
      match plainWord inFlow cursor.rest with
      | [] => (text, ended, cursor)
      | word =>
        let text := text ++ gap ++ word
        let (gap, ended, cursor) := plainGap (cursor.advance word.length)
        if gap.isEmpty || cursor.peek? == some '#' ||
          (!inFlow && (cursor.column : Int) < indent)
        then (text, ended, cursor)
        else plainWords inFlow indent fuel text gap ended cursor

/-- A plain scalar inside a block of the given indentation. -/
def readPlain (inFlow : Bool) (indent : Int) (cursor : Cursor) :
    List Char × Bool × Cursor :=
  plainWords inFlow (indent + 1) (cursor.rest.length + 1) [] [] false cursor

/-! ## Quoted scalars -/

/-- The character of an escape by letter. -/
def escapeOf? (c : Char) : Option Char :=
  match c with
  | '0' => some (Char.ofNat 0)
  | 'a' => some (Char.ofNat 7)
  | 'b' => some (Char.ofNat 8)
  | 't' => some '\t'
  | '\t' => some '\t'
  | 'n' => some '\n'
  | 'v' => some (Char.ofNat 11)
  | 'f' => some (Char.ofNat 12)
  | 'r' => some '\r'
  | 'e' => some (Char.ofNat 27)
  | ' ' => some ' '
  | '"' => some '"'
  | '\\' => some '\\'
  | '/' => some '/'
  | 'N' => some (Char.ofNat 0x85)
  | '_' => some (Char.ofNat 0xa0)
  | 'L' => some (Char.ofNat 0x2028)
  | 'P' => some (Char.ofNat 0x2029)
  | _ => none

/-- The number of digits of an escape by code point. -/
def escapeWidth? (c : Char) : Option Nat :=
  match c with
  | 'x' => some 2
  | 'u' => some 4
  | 'U' => some 8
  | _ => none

def codePoint (digits : List Char) : Except Fault Char :=
  match digits.mapM Json.hexValue? with
  | none => .error .malformed
  | some values =>
    let point := values.foldl (fun n d => 16 * n + d) 0
    if point < 0x110000 then .ok (Json.unitChar point)
    else if point < 2147483648 then .error .codePoint
    else .error .codePointSize

/-- Empty lines inside a quoted scalar. A document marker must not stand
there. -/
def quotedEmptyLines : Nat → List Char → Cursor → Read
  | 0, lines, cursor => .ok (lines, cursor)
  | fuel + 1, lines, cursor =>
    if cursor.atMarker then .error .malformed
    else
      let cursor := cursor.skipWhile fun c => c == ' ' || c == '\t'
      match cursor.lineBreak with
      | ([], _) => .ok (lines, cursor)
      | (lineEnd, cursor) => quotedEmptyLines fuel (lines ++ lineEnd) cursor

/-- A character that means itself in both quoted styles. -/
def isQuotedPlain (c : Char) : Bool :=
  c != '\'' && c != '"' && c != '\\' && !endsWord (some c)

/-- The text of a quoted scalar up to a blank, the end of a line or the closing
quote. -/
def quotedWord (double : Bool) : Nat → List Char → Cursor → Read
  | 0, text, cursor => .ok (text, cursor)
  | fuel + 1, text, cursor =>
    let (chars, cursor) := cursor.takeWhile isQuotedPlain
    let text := text ++ chars
    match cursor.rest with
    | [] => .ok (text, cursor)
    | c :: rest =>
      if !double && c == '\'' && rest.head? == some '\'' then
        quotedWord double fuel (text ++ ['\'']) (cursor.advance 2)
      else if (double && c == '\'') || (!double && (c == '"' || c == '\\')) then
        quotedWord double fuel (text ++ [c]) cursor.next
      else if double && c == '\\' then
        match rest with
        | [] => .error .malformed
        | e :: digits =>
          match escapeOf? e, escapeWidth? e with
          | some escaped, _ =>
              quotedWord double fuel (text ++ [escaped]) (cursor.advance 2)
          | none, some width => do
            if digits.length < width then throw .malformed
            let escaped ← codePoint (digits.take width)
            quotedWord double fuel (text ++ [escaped])
              (cursor.advance (2 + width))
          | none, none =>
            if isBreak e then do
              let (_, cursor) := cursor.next.lineBreak
              let (lines, cursor) ← quotedEmptyLines
                  (cursor.rest.length + 1) [] cursor
              quotedWord double fuel (text ++ lines) cursor
            else .error .malformed
      else .ok (text, cursor)

/-- Blanks inside a quoted scalar, or the fold that stands for the ends of
lines. -/
def quotedGap (cursor : Cursor) : Read :=
  let (blanks, cursor) := cursor.takeWhile fun c => c == ' ' || c == '\t'
  if cursor.rest.isEmpty then .error .malformed
  else match cursor.lineBreak with
    | ([], _) => .ok (blanks, cursor)
    | (lineEnd, cursor) => do
      let (empty, cursor) ← quotedEmptyLines (cursor.rest.length + 1) [] cursor
      return (folded lineEnd empty, cursor)

/-- The parts of a quoted scalar up to the closing quote. -/
def quotedParts (quote : Char) : Nat → List Char → Cursor → Read
  | 0, _, _ => .error .malformed
  | fuel + 1, text, cursor =>
    if cursor.peek? == some quote then .ok (text, cursor.next)
    else do
      let (gap, cursor) ← quotedGap cursor
      let (word, cursor) ← quotedWord (quote == '"')
          (cursor.rest.length + 1) [] cursor
      quotedParts quote fuel (text ++ gap ++ word) cursor

/-- A quoted scalar, its opening quote included. -/
def readQuoted (quote : Char) (cursor : Cursor) : Read := do
  let cursor := cursor.next
  let (word, cursor) ← quotedWord (quote == '"')
      (cursor.rest.length + 1) [] cursor
  quotedParts quote (cursor.rest.length + 1) word cursor

/-! ## Block scalars -/

/-- What happens to the ends of lines at the end of a block scalar. -/
inductive Chomping where
  | strip
  | clip
  | keep
  deriving DecidableEq

/-- The rest of a line that holds nothing but a comment, its end included. -/
def readCommentLine (cursor : Cursor) : Except Fault Cursor :=
  let cursor := cursor.skipBlanks
  let cursor :=
    if cursor.peek? == some '#' then cursor.skipWhile (!isBreak ·) else cursor
  if endsLine cursor.peek? then .ok cursor.lineBreak.2 else .error .malformed

/-- The mark for the ends of lines. -/
def chomping? : Option Char → Option Chomping
  | some '+' => some .keep
  | some '-' => some .strip
  | _ => none

/-- The mark for the indentation, which is not zero. -/
def increment? : Option Char → Option Nat
  | some c => if c.isDigit then some (c.toNat - 48) else none
  | none => none

/-- The marks behind the indicator of a block scalar, in either order. -/
def blockMarks (cursor : Cursor) :
    Except Fault (Chomping × Option Nat × Cursor) := do
  let (chomping, increment, cursor) := match chomping? cursor.peek? with
    | some chomping =>
      match increment? cursor.next.peek? with
      | some n => (chomping, some n, cursor.advance 2)
      | none => (chomping, none, cursor.next)
    | none =>
      match increment? cursor.peek? with
      | some n =>
        match chomping? cursor.next.peek? with
        | some chomping => (chomping, some n, cursor.advance 2)
        | none => (.clip, some n, cursor.next)
      | none => (.clip, none, cursor)
  if increment = some 0 then throw .malformed
  if !endsField cursor.peek? then throw .malformed
  return (chomping, increment, cursor)

/-- The empty lines at the front of a block scalar, with the widest indentation
among them. -/
def blockIndentation : Nat → List Char → Nat → Cursor → List Char × Nat × Cursor
  | 0, lines, widest, cursor => (lines, widest, cursor)
  | fuel + 1, lines, widest, cursor =>
    match cursor.peek? with
    | some c =>
      if c = ' ' then
        let cursor := cursor.next
        blockIndentation fuel lines (max widest cursor.column) cursor
      else if isBreak c then
        let (lineEnd, cursor) := cursor.lineBreak
        blockIndentation fuel (lines ++ lineEnd) widest cursor
      else (lines, widest, cursor)
    | none => (lines, widest, cursor)

/-- Goes over blanks, but not beyond a column. -/
def skipIndentation (indent : Nat) (cursor : Cursor) : Cursor :=
  cursor.advance
    ((cursor.rest.takeWhile (· == ' ')).length.min (indent - cursor.column))

def blockEmptyLines (indent : Nat) :
    Nat → List Char → Cursor → List Char × Cursor
  | 0, lines, cursor => (lines, cursor)
  | fuel + 1, lines, cursor =>
    match cursor.lineBreak with
    | ([], _) => (lines, cursor)
    | (lineEnd, cursor) =>
      blockEmptyLines indent fuel (lines ++ lineEnd)
        (skipIndentation indent cursor)

/-- The empty lines at a place and the place after them. -/
def readEmptyLines (indent : Nat) (cursor : Cursor) : List Char × Cursor :=
  blockEmptyLines indent (cursor.rest.length + 1) []
    (skipIndentation indent cursor)

/-- The lines of a block scalar: the text up to the last line, the end of that
line, the empty lines after it, and the place after them. `empty` holds the
empty lines before the next line. -/
def blockLines (fold : Bool) (indent : Nat) :
    Nat → List Char → List Char → List Char → Cursor →
      List Char × List Char × List Char × Cursor
  | 0, text, lineEnd, empty, cursor => (text, lineEnd, empty, cursor)
  | fuel + 1, text, lineEnd, empty, cursor =>
    if cursor.column = indent && !cursor.rest.isEmpty then
      let isText (c : Option Char) : Bool := c != some ' ' && c != some '\t'
      let opensText := isText cursor.peek?
      let (line, cursor) := cursor.takeWhile (!isBreak ·)
      let text := text ++ empty ++ line
      let (lineEnd, cursor) := cursor.lineBreak
      let (empty, cursor) := readEmptyLines indent cursor
      if cursor.column = indent && !cursor.rest.isEmpty then
        let text :=
          if fold && lineEnd == ['\n'] && opensText && isText cursor.peek? then
            if empty.isEmpty then text ++ [' '] else text
          else text ++ lineEnd
        blockLines fold indent fuel text lineEnd empty cursor
      else (text, lineEnd, empty, cursor)
    else (text, lineEnd, empty, cursor)

/-- A block scalar, its indicator included, inside a block of the given
indentation. -/
def readBlock (fold : Bool) (indent : Int) (cursor : Cursor) : Read := do
  let (chomping, increment, cursor) ← blockMarks cursor.next
  let cursor ← readCommentLine cursor
  let least := (max 1 (indent + 1)).toNat
  let (column, empty, cursor) := match increment with
    | some n =>
      let column := least + n - 1
      let (empty, cursor) := readEmptyLines column cursor
      (column, empty, cursor)
    | none =>
      let (empty, widest, cursor) :=
        blockIndentation (cursor.rest.length + 1) [] 0 cursor
      (max least widest, empty, cursor)
  let (text, lineEnd, empty, cursor) :=
    blockLines fold column (cursor.rest.length + 1) [] [] empty cursor
  let ending := match chomping with
    | .strip => []
    | .clip => lineEnd
    | .keep => lineEnd ++ empty
  return (text ++ ending, cursor)

end PageFlow.Yaml
