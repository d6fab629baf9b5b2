import PageFlow.Yaml.Label

/-!
# Cutting a YAML stream into tokens

Indentation opens and closes block collections. A scalar, a collection in
brackets, an anchor, an alias or a tag may turn out to be a key when a colon
follows on its line; the place of its token is kept until then, and the tokens
that announce the key are put there.
-/

namespace PageFlow.Yaml

/-- A token that may turn out to be a key: its number among all tokens and its
place. A required one stands where a key of the surrounding mapping has to
stand. -/
structure KeyCandidate where
  number : Nat
  required : Bool
  index : Nat
  line : Nat
  column : Nat

/-- The state between two tokens. `tokens` holds the tokens so far, the last one
first. -/
structure Lexer where
  cursor : Cursor
  tokens : List Token
  count : Nat
  flowLevel : Nat
  indent : Int
  indents : List Int
  allowKey : Bool
  candidates : List (Nat × KeyCandidate)

namespace Lexer

/-- The state at the start of a stream. A byte order mark at the front is passed
over. -/
def start (s : List Char) : Lexer :=
  let cursor := Cursor.start s
  let cursor := if s.head?.any (·.toNat == 0xfeff) then cursor.next else cursor
  { cursor, tokens := [], count := 0, flowLevel := 0, indent := -1,
    indents := [], allowKey := true, candidates := [] }

def push (lexer : Lexer) (token : Token) : Lexer :=
  { lexer with tokens := token :: lexer.tokens, count := lexer.count + 1 }

/-- Puts a token in front of the one with a number. -/
def insertAt (lexer : Lexer) (number : Nat) (token : Token) : Lexer :=
  let later := lexer.count - number
  { lexer with
    tokens := lexer.tokens.take later ++ token :: lexer.tokens.drop later
    count := lexer.count + 1 }

/-- Adds a token of so many characters. -/
def pushOver (lexer : Lexer) (token : Token) (width : Nat) : Lexer :=
  { lexer.push token with cursor := lexer.cursor.advance width }

/-- A candidate can no longer be a key: it is on an earlier line or too far
back. -/
def isStale (lexer : Lexer) (candidate : KeyCandidate) : Bool :=
  candidate.line != lexer.cursor.line ||
    lexer.cursor.index - candidate.index > 1024

/-- Forgets the candidates that can no longer be keys. A required one must not
be forgotten. -/
def dropStale (lexer : Lexer) : Except Fault Lexer :=
  if lexer.candidates.any fun entry =>
    lexer.isStale entry.2 && entry.2.required then
    .error .malformed
  else .ok { lexer with candidates :=
    lexer.candidates.filter (!lexer.isStale ·.2) }

/-- The tokens that are ready for use. Those from the first candidate on are
held back as long as a key may be announced in front of it, so a fault comes
before all of them. -/
def ready (lexer : Lexer) : List Token :=
  let held := lexer.candidates.filter (!lexer.isStale ·.2)
  lexer.tokens.reverse.take
    (held.foldl (fun least entry => min least entry.2.number) lexer.count)

/-- Forgets the candidate of the current level, which must not be required. -/
def dropCandidate (lexer : Lexer) : Except Fault Lexer :=
  match lexer.candidates.lookup lexer.flowLevel with
  | none => .ok lexer
  | some candidate =>
    if candidate.required then .error .malformed
    else .ok { lexer with candidates :=
      lexer.candidates.filter (·.1 != lexer.flowLevel) }

/-- Makes the next token a candidate, where a key may stand. -/
def saveCandidate (lexer : Lexer) : Except Fault Lexer :=
  if lexer.allowKey then do
    let required :=
      lexer.flowLevel == 0 && lexer.indent == (lexer.cursor.column : Int)
    let lexer ← lexer.dropCandidate
    let cursor := lexer.cursor
    let candidate : KeyCandidate :=
      ⟨lexer.count, required, cursor.index, cursor.line, cursor.column⟩
    return { lexer with candidates := (lexer.flowLevel, candidate) ::
      lexer.candidates }
  else return lexer

/-- Closes the block collections that are indented deeper than a column. -/
def unwind (column : Int) (lexer : Lexer) : Lexer :=
  if lexer.flowLevel = 0 then close lexer.indents lexer else lexer
where
  /-- Closes the innermost of the given collections as long as it is deeper. -/
  close : List Int → Lexer → Lexer
    | [], lexer => lexer
    | outer :: rest, lexer =>
      if column < lexer.indent then
        close rest
          { lexer.push .blockEnd with indent := outer, indents := rest }
      else lexer

/-- Opens a block collection at a column, if it is deeper than the current
one. -/
def deepen (lexer : Lexer) (column : Nat) : Option Lexer :=
  if lexer.indent < (column : Int) then
    some { lexer with
      indents := lexer.indent :: lexer.indents, indent := column }
  else none

/-- Closes all block collections at the front of a marker, where no key may
stand. -/
def leaveBlocks (lexer : Lexer) : Except Fault Lexer := do
  let lexer ← (lexer.unwind (-1)).dropCandidate
  return { lexer with allowKey := false }

def openFlow (lexer : Lexer) (token : Token) : Except Fault Lexer := do
  let lexer ← lexer.saveCandidate
  return { lexer.pushOver token 1 with
    flowLevel := lexer.flowLevel + 1, allowKey := true }

def closeFlow (lexer : Lexer) (token : Token) : Except Fault Lexer := do
  let lexer ← lexer.dropCandidate
  return { lexer.pushOver token 1 with
    flowLevel := lexer.flowLevel - 1, allowKey := false }

def flowEntry (lexer : Lexer) : Except Fault Lexer := do
  let lexer ← { lexer with allowKey := true }.dropCandidate
  return lexer.pushOver .flowEntry 1

/-- Opens a block collection for an indicator that may only stand where a key
may. -/
def openBlock (lexer : Lexer) (opening : Token) : Except Fault Lexer :=
  if lexer.flowLevel ≠ 0 then .ok lexer
  else if !lexer.allowKey then .error .malformed
  else match lexer.deepen lexer.cursor.column with
    | some deeper => .ok (deeper.push opening)
    | none => .ok lexer

/-- The dash of a block sequence. -/
def blockEntry (lexer : Lexer) : Except Fault Lexer := do
  let lexer ← lexer.openBlock .blockSequenceStart
  let lexer ← { lexer with allowKey := true }.dropCandidate
  return lexer.pushOver .blockEntry 1

/-- The question mark in front of a key. -/
def explicitKey (lexer : Lexer) : Except Fault Lexer := do
  let lexer ← lexer.openBlock .blockMappingStart
  let lexer ← { lexer with allowKey := lexer.flowLevel == 0 }.dropCandidate
  return lexer.pushOver .key 1

/-- The colon behind a key: the candidate of the level becomes a key. Without
one the key was marked by a question mark or is empty. -/
def keyValue (lexer : Lexer) : Except Fault Lexer := do
  match lexer.candidates.lookup lexer.flowLevel with
  | some candidate =>
    let lexer :=
      { lexer with candidates :=
        lexer.candidates.filter (·.1 != lexer.flowLevel) }
    let lexer := lexer.insertAt candidate.number .key
    let lexer :=
      if lexer.flowLevel = 0 then
        match lexer.deepen candidate.column with
        | some deeper => deeper.insertAt candidate.number .blockMappingStart
        | none => lexer
      else lexer
    return { lexer with allowKey := false }.pushOver .value 1
  | none =>
    let lexer ← lexer.openBlock .blockMappingStart
    let lexer ← { lexer with allowKey := lexer.flowLevel == 0 }.dropCandidate
    return lexer.pushOver .value 1

/-- A token that may be a key and after which none may begin. -/
def pushContent (lexer : Lexer)
    (read : Cursor → Except Fault (Token × Cursor)) : Except Fault Lexer := do
  let lexer ← lexer.saveCandidate
  let (token, cursor) ← read lexer.cursor
  return { lexer.push token with cursor, allowKey := false }

/-- A plain scalar. A key may begin behind it if the line has ended. -/
def pushPlain (lexer : Lexer) : Except Fault Lexer := do
  let lexer ← lexer.saveCandidate
  let (text, ended, cursor) :=
    readPlain (lexer.flowLevel != 0) lexer.indent lexer.cursor
  return { lexer.push (.scalar (String.ofList text) true) with
    cursor, allowKey := ended }

def pushBlockScalar (lexer : Lexer) (fold : Bool) : Except Fault Lexer := do
  let lexer ← { lexer with allowKey := true }.dropCandidate
  let (text, cursor) ← readBlock fold lexer.indent lexer.cursor
  return { lexer.push (.scalar (String.ofList text) false) with cursor }

/-- The place of the next token: blanks, comments and ends of lines are passed
over. Outside brackets a key may begin on a new line. -/
def skipLayout : Nat → Lexer → Lexer
  | 0, lexer => lexer
  | fuel + 1, lexer =>
    let cursor := lexer.cursor.skipBlanks
    let cursor :=
      if cursor.peek? == some '#' then cursor.skipWhile (!isBreak ·) else cursor
    match cursor.lineBreak with
    | ([], _) => { lexer with cursor }
    | (_, cursor) =>
      skipLayout fuel { lexer with
        cursor, allowKey := lexer.allowKey || lexer.flowLevel == 0 }

/-- A plain scalar may begin here. -/
def atPlain (lexer : Lexer) (c : Char) : Bool :=
  (!endsWord (some c) && !"-?:,[]\x7b\x7d#&*!|>'\"%@\x60".toList.contains c) ||
    (!endsWord (lexer.cursor.peekAt? 1) &&
      (c == '-' || (lexer.flowLevel == 0 && (c == '?' || c == ':'))))

/-- The token that a character begins. -/
def readToken (lexer : Lexer) (c : Char) : Except Fault Lexer := do
  let cursor := lexer.cursor
  let spaced := endsWord (cursor.peekAt? 1)
  let inFlow := lexer.flowLevel != 0
  if c == '%' && cursor.column == 0 then
    let lexer ← lexer.leaveBlocks
    let (token, cursor) ← readDirective cursor
    return { lexer.push token with cursor }
  if c == '-' && cursor.column == 0 && cursor.atMarker then
    return (← lexer.leaveBlocks).pushOver .documentStart 3
  if c == '.' && cursor.column == 0 && cursor.atMarker then
    return (← lexer.leaveBlocks).pushOver .documentEnd 3
  if c == '[' then return ← lexer.openFlow .flowSequenceStart
  if c == '{' then return ← lexer.openFlow .flowMappingStart
  if c == ']' then return ← lexer.closeFlow .flowSequenceEnd
  if c == '}' then return ← lexer.closeFlow .flowMappingEnd
  if c == ',' then return ← lexer.flowEntry
  if c == '-' && spaced then return ← lexer.blockEntry
  if c == '?' && (inFlow || spaced) then return ← lexer.explicitKey
  if c == ':' && (inFlow || spaced) then return ← lexer.keyValue
  if c == '*' then return ← lexer.pushContent fun cursor => do
    let (name, cursor) ← readName cursor
    return (.alias name, cursor)
  if c == '&' then return ← lexer.pushContent fun cursor => do
    let (name, cursor) ← readName cursor
    return (.anchor name, cursor)
  if c == '!' then return ← lexer.pushContent readTag
  if c == '|' && !inFlow then return ← lexer.pushBlockScalar false
  if c == '>' && !inFlow then return ← lexer.pushBlockScalar true
  if c == '\'' || c == '"' then return ← lexer.pushContent fun cursor => do
    let (text, cursor) ← readQuoted c cursor
    return (.scalar (String.ofList text) false, cursor)
  if lexer.atPlain c then return ← lexer.pushPlain
  throw .malformed

/-- Goes on to the next token. The end of the stream closes all collections. -/
def step (lexer : Lexer) : Except Fault Lexer := do
  let lexer := lexer.skipLayout (lexer.cursor.rest.length + 1)
  let lexer ← lexer.dropStale
  let lexer := lexer.unwind lexer.cursor.column
  match lexer.cursor.peek? with
  | none => return (← lexer.leaveBlocks).push .streamEnd
  | some c => lexer.readToken c

/-- All tokens, and the fault at which they end unless the stream was read to
its end. -/
def run : Nat → Lexer → List Token × Fault
  | 0, lexer => (lexer.tokens.reverse, .malformed)
  | fuel + 1, lexer =>
    match lexer.step with
    | .error fault => (lexer.ready, fault)
    | .ok next =>
      if next.tokens.head? = some .streamEnd then
        (next.tokens.reverse, .malformed)
      else run fuel next

end Lexer

/-- A character that may stand in a stream. -/
def isAllowed (c : Char) : Bool :=
  let n := c.toNat
  n == 9 || n == 10 || n == 13 || (0x20 ≤ n && n ≤ 0x7e) || n == 0x85 ||
    (0xa0 ≤ n && n ≤ 0xd7ff) ||
    (0xe000 ≤ n && n ≤ 0xfffd) || 0x10000 ≤ n

/-- The tokens of a stream, and the fault behind the last of them. -/
def tokens (s : String) : List Token × Fault :=
  let chars := s.toList
  if chars.all isAllowed then (Lexer.start chars).run (chars.length + 2)
  else ([], .malformed)

end PageFlow.Yaml
