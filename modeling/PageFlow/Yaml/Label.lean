import PageFlow.Text.Utf8
import PageFlow.Yaml.Scalar
import PageFlow.Yaml.Token

/-!
# Labels of YAML nodes

The tokens around a node that are no content: anchors and aliases, tags, and the
directives at the front of a document.
-/

namespace PageFlow.Yaml

open PageFlow.Text

def isNameChar (c : Char) : Bool :=
  c.isAlphanum || c == '-' || c == '_'

def isUriChar (c : Char) : Bool :=
  c.isAlphanum || "-;/?:@&=+$,_.!~*'()[]%".toList.contains c

/-- The name of an anchor or an alias, its indicator included. -/
def readName (cursor : Cursor) : Except Fault (String × Cursor) := do
  let (name, cursor) := cursor.next.takeWhile isNameChar
  if name.isEmpty then throw .malformed
  match cursor.peek? with
  | none => pure ()
  | some c =>
      if !endsWord (some c) && !"?:,]\x7d%@\x60".toList.contains c then
        throw .malformed
  return (String.ofList name, cursor)

/-- The bytes of escapes by two hexadecimal digits. -/
def uriEscapes : Nat → List UInt8 → Cursor → Except Fault (List UInt8 × Cursor)
  | 0, bytes, cursor => .ok (bytes, cursor)
  | fuel + 1, bytes, cursor =>
    match cursor.rest with
    | '%' :: a :: b :: _ =>
      match Json.hexValue? a, Json.hexValue? b with
      | some high, some low =>
        uriEscapes fuel (bytes ++ [UInt8.ofNat (16 * high + low)])
          (cursor.advance 3)
      | _, _ => .error .malformed
    | '%' :: _ => .error .malformed
    | _ => .ok (bytes, cursor)

/-- The characters of an address; escapes stand for UTF-8. -/
def uriChars : Nat → List Char → Cursor → Read
  | 0, text, cursor => .ok (text, cursor)
  | fuel + 1, text, cursor => do
    let (chars, cursor) := cursor.takeWhile fun c => isUriChar c && c != '%'
    let text := text ++ chars
    if cursor.peek? == some '%' then
      let (bytes, cursor) ← uriEscapes (cursor.rest.length + 1) [] cursor
      match decodeUtf8 bytes with
      | .ok decoded => uriChars fuel (text ++ decoded.toList) cursor
      | .error _ => throw .malformed
    else return (text, cursor)

def readUri (cursor : Cursor) : Except Fault (String × Cursor) := do
  let begins := cursor.peek?.any isUriChar
  if !begins then throw .malformed
  let (text, cursor) ← uriChars (cursor.rest.length + 1) [] cursor
  return (String.ofList text, cursor)

/-- A handle: an exclamation mark, or a name between two of them. -/
def readHandle (cursor : Cursor) : Except Fault (String × Cursor) := do
  if cursor.peek? != some '!' then throw .malformed
  let after := cursor.next
  if after.peek? == some ' ' then return ("!", after)
  let (name, after) := after.takeWhile isNameChar
  if after.peek? != some '!' then throw .malformed
  return (String.ofList ('!' :: name ++ ['!']), after.next)

/-- A tag has a second exclamation mark before the next blank. -/
def hasHandle (cursor : Cursor) : Bool :=
  (cursor.rest.drop 1).takeWhile (fun c => !(c == ' ' || isBreak c))
    |>.contains '!'

/-- A tag: an address between angle brackets, a lone exclamation mark, or a
handle with a suffix. -/
def readTag (cursor : Cursor) : Except Fault (Token × Cursor) := do
  let (token, cursor) ←
    if cursor.peekAt? 1 == some '<' then do
      let (uri, cursor) ← readUri (cursor.advance 2)
      if cursor.peek? != some '>' then throw .malformed
      pure (Token.tag none uri, cursor.next)
    else if endsWord (cursor.peekAt? 1) then
      pure (Token.tag none "!", cursor.next)
    else do
      let (handle, cursor) ←
        if hasHandle cursor then readHandle cursor else pure ("!", cursor.next)
      let (suffix, cursor) ← readUri cursor
      pure (Token.tag (some handle) suffix, cursor)
  if !endsField cursor.peek? then throw .malformed
  return (token, cursor)

def readVersionNumber (cursor : Cursor) : Except Fault (Nat × Cursor) := do
  let (digits, cursor) := cursor.takeWhile Char.isDigit
  if digits.isEmpty then throw .malformed
  return (Json.digitsValue digits, cursor)

/-- A directive, its indicator included, up to the end of its line. -/
def readDirective (cursor : Cursor) : Except Fault (Token × Cursor) := do
  let (name, cursor) := cursor.next.takeWhile isNameChar
  if name.isEmpty then throw .malformed
  if !endsField cursor.peek? then throw .malformed
  let (token, cursor) ←
    if name = "YAML".toList then do
      let (major, cursor) ← readVersionNumber cursor.skipBlanks
      if cursor.peek? != some '.' then throw .malformed
      let (_, cursor) ← readVersionNumber cursor.next
      if !endsField cursor.peek? then throw .malformed
      pure (Token.version major, cursor)
    else if name = "TAG".toList then do
      let (handle, cursor) ← readHandle cursor.skipBlanks
      if cursor.peek? != some ' ' then throw .malformed
      let (uri, cursor) ← readUri cursor.skipBlanks
      if !endsField cursor.peek? then throw .malformed
      pure (Token.handle handle uri, cursor)
    else pure (Token.directive, cursor.skipWhile (!isBreak ·))
  return (token, ← readCommentLine cursor)

end PageFlow.Yaml
