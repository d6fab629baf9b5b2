import PageFlow.Text.Width

/-!
# Console markup

Markup is text with tags in square brackets. A tag opens with a bracket and a
letter, `#`, `/` or `@`; backslashes in front of it are counted: each pair
stands for one backslash, and an odd one makes the tag print as it is. Escaping
and printing cut a text into the same pieces.
-/

namespace PageFlow.Markup

/-- A piece of markup: a character, or a tag with its brackets and the number of
backslashes in front of it. -/
inductive Piece where
  | plain (c : Char)
  | tag (slashes : Nat) (body : List Char)
  deriving DecidableEq, Repr

def Piece.source : Piece → List Char
  | .plain c => [c]
  | .tag slashes body => List.replicate slashes '\\' ++ body

/-- A character that may follow the bracket of a tag. -/
def opensTag (c : Char) : Bool :=
  ('a' ≤ c && c ≤ 'z') || c == '#' || c == '/' || c == '@'

/-- The text up to the first closing bracket, that bracket included, and what
follows. There must be no opening bracket before it. -/
def closing? : List Char → Option (List Char × List Char)
  | [] => none
  | c :: rest =>
    if c = ']' then some ([c], rest)
    else if c = '[' then none
    else (closing? rest).map fun (body, after) => (c :: body, after)

/-- A tag at the front of a text, and what follows. -/
def tag? : List Char → Option (List Char × List Char)
  | '[' :: c :: rest =>
    if opensTag c then (closing? rest).map fun (body, after) =>
      ('[' :: c :: body, after) else none
  | _ => none

theorem closing_eq_append {s body after : List Char}
    (h : closing? s = some (body, after)) : s = body ++ after := by
  induction s generalizing body after with
  | nil => cases h
  | cons c rest ih =>
    unfold closing? at h
    split at h
    · cases h
      rfl
    · split at h
      · cases h
      · obtain ⟨found, inner, rebuilt⟩ := Option.map_eq_some_iff.1 h
        cases rebuilt
        exact congrArg (c :: ·) (ih inner)

theorem tag_eq_append {s body after : List Char}
    (h : tag? s = some (body, after)) : s = body ++ after := by
  unfold tag? at h
  split at h
  · split at h
    · obtain ⟨found, inner, rebuilt⟩ := Option.map_eq_some_iff.1 h
      cases rebuilt
      exact congrArg (_ :: _ :: ·) (closing_eq_append inner)
    · cases h
  · cases h

theorem length_lt_of_tag {s body after : List Char}
    (h : tag? s = some (body, after)) : after.length < s.length := by
  have whole := congrArg List.length (tag_eq_append h)
  unfold tag? at h
  split at h
  · split at h
    · obtain ⟨found, inner, rebuilt⟩ := Option.map_eq_some_iff.1 h
      cases rebuilt
      simp at whole ⊢
      omega
    · cases h
  · cases h

/-- Cuts a text behind `slashes` backslashes that were not yet put into a
piece. -/
def piecesAfter (slashes : Nat) (s : List Char) : List Piece :=
  match _found : tag? s with
  | some (body, after) => .tag slashes body :: piecesAfter 0 after
  | none =>
    match s with
    | [] => List.replicate slashes (.plain '\\')
    | c :: rest =>
      if c = '\\' then piecesAfter (slashes + 1) rest
      else List.replicate slashes (.plain '\\') ++ .plain c ::
        piecesAfter 0 rest
termination_by s.length
decreasing_by
  · exact length_lt_of_tag _found
  · simp
  · simp

def pieces (s : List Char) : List Piece :=
  piecesAfter 0 s

/-- The escaped form of a piece: the backslashes in front of a tag are doubled,
and one more makes it print as it is. -/
def Piece.escaped : Piece → List Char
  | .plain c => [c]
  | .tag slashes body => List.replicate (2 * slashes + 1) '\\' ++ body

/-- A single backslash at the end would escape what comes behind the text, so it
is doubled. -/
def guardEnd (s : List Char) : List Char :=
  match s.reverse with
  | '\\' :: '\\' :: _ => s
  | '\\' :: _ => s ++ ['\\']
  | _ => s

/-- The markup that stands for a text. -/
def escape (s : List Char) : List Char :=
  guardEnd ((pieces s).flatMap Piece.escaped)

/-- The text that pieces print. Outside tags a backslash in front of a bracket
is dropped. -/
def printed : List Piece → List Char
  | [] => []
  | .tag slashes body :: rest =>
    List.replicate (slashes / 2) '\\' ++
      (if slashes % 2 = 1 then body else []) ++ printed rest
  | .plain c :: rest =>
    if c = '\\' ∧ rest.head? = some (.plain '[') then printed rest
      else c :: printed rest

/-- The controls that a console never shows: bell, backspace, vertical tab, form
feed and carriage return. -/
def isDropped (c : Char) : Bool :=
  c.toNat == 7 || c.toNat == 8 || c.toNat == 11 || c.toNat == 12 ||
    c.toNat == 13

/-- The text that markup shows. Names of emoji between colons are left as they
are. -/
def plainText (markup : String) : String :=
  String.ofList ((printed (pieces markup.toList)).filter (!isDropped ·))

/-- What is written to a console for a shown text: tabs are expanded and a line
feed ends it. -/
def consoleText (shown : String) : String :=
  String.ofList (Text.expandTabs 0 shown.toList ++ ['\n'])

/-- What is written to a console for a text that is no markup. -/
def rawConsoleText (text : String) : String :=
  consoleText (String.ofList (text.toList.filter (!isDropped ·)))

/-! ## Templates -/

/-- A part of a template: an opening or closing tag by its style, fixed text, or
text from outside. -/
inductive Part where
  | opening (style : String)
  | closing (style : String)
  | fixed (text : String)
  | user (text : String)
  deriving DecidableEq, Repr

/-- The markup of a part; text from outside is escaped. -/
def Part.markup : Part → List Char
  | .opening style => '[' :: style.toList ++ [']']
  | .closing style => '[' :: '/' :: style.toList ++ [']']
  | .fixed text => text.toList
  | .user text => escape text.toList

/-- The text of a part as it is meant to be shown. -/
def Part.shown : Part → List Char
  | .opening _ | .closing _ => []
  | .fixed text => text.toList
  | .user text => text.toList

def render (parts : List Part) : String :=
  String.ofList (parts.flatMap Part.markup)

/-- The text of a template as it is meant to be shown. -/
def shown (parts : List Part) : String :=
  String.ofList (parts.flatMap Part.shown)

/-- Parts inside a pair of tags. -/
def styled (style : String) (parts : List Part) : List Part :=
  .opening style :: parts ++ [.closing style]

def joinLines : List (List Part) → List Part
  | [] => []
  | [line] => line
  | line :: rest => line ++ .fixed "\n" :: joinLines rest

end PageFlow.Markup
