import PageFlow.Markup
import PageFlow.Text.Blank

/-!
# Tags of markup

A console takes the tags of markup in order. An opening tag begins a style; a
closing tag ends the innermost open style of its name, or the one opened last
when it has no name. A closing tag that ends nothing makes the whole markup
unfit to be shown.
-/

namespace PageFlow.Markup

/-- A tag that is not printed: the place of its bracket, and its text with the
brackets. -/
structure LiveTag where
  place : Nat
  text : List Char
  deriving DecidableEq, Repr

/-- The tags of pieces that are not printed, in order; the first piece begins at
a place. -/
def liveTags (place : Nat) : List Piece → List LiveTag
  | [] => []
  | .plain _ :: rest => liveTags (place + 1) rest
  | .tag slashes body :: rest =>
    let later := liveTags (place + slashes + body.length) rest
    if slashes % 2 = 0 then ⟨place + slashes, body⟩ :: later else later

namespace LiveTag

/-- What stands between the brackets, up to an equals sign. -/
def name (tag : LiveTag) : List Char :=
  (tag.text.drop 1).dropLast.takeWhile (· ≠ '=')

/-- The style that an opening tag begins. -/
def style (tag : LiveTag) : List Char :=
  Text.trimChars tag.name

/-- The style that a closing tag ends. -/
def closes? (tag : LiveTag) : Option (List Char) :=
  match tag.name with
  | '/' :: style => some (Text.trimChars style)
  | _ => none

end LiveTag

/-- Takes the innermost tag of a style out of the open ones, the last of which
comes first. -/
def takeOpen (style : List Char) :
    List LiveTag → Option (LiveTag × List LiveTag)
  | [] => none
  | tag :: below =>
    if style.isEmpty || tag.style = style then some (tag, below)
    else (takeOpen style below).map fun (found, rest) => (found, tag :: rest)

/-- A closing tag that ends nothing. -/
structure StrayTag where
  tag : LiveTag
  deriving DecidableEq, Repr

def StrayTag.message (stray : StrayTag) : String :=
  "closing tag '" ++ String.ofList stray.tag.text ++ "' at position " ++
    toString stray.tag.place ++
    if stray.tag.closes? = some [] then " has nothing to close"
      else " doesn't match any open tag"

/-- Pairs every closing tag with the open tag that it ends. -/
def pairTags (opened : List LiveTag) :
    List LiveTag → Except StrayTag (List (LiveTag × LiveTag))
  | [] => .ok []
  | tag :: rest =>
    match tag.closes? with
    | none => pairTags (tag :: opened) rest
    | some style =>
      match takeOpen style opened with
      | none => .error ⟨tag⟩
      | some (opener, below) => (pairTags below rest).map ((opener, tag) :: ·)

/-- The live tags of a text. -/
def tagsOf (markup : String) : List LiveTag :=
  liveTags 0 (pieces markup.toList)

/-- What a console shows of markup, unless a closing tag is stray. -/
def console? (markup : String) : Except StrayTag String :=
  (pairTags [] (tagsOf markup)).map fun _ => consoleText (plainText markup)

end PageFlow.Markup
