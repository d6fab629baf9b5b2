import PageFlow.Value

/-!
# Environment

Named texts given from outside, and references to them. A reference is written
`${NAME}`, where the name is a letter or an underscore followed by letters,
digits and underscores of ASCII. A text is cut into pieces once; each reference
to a known name becomes its text, which is not looked at again.
-/

namespace PageFlow

/-- Names with their texts. -/
structure Environment where
  entries : List (String × String)
  deriving DecidableEq, Repr, Inhabited

namespace Environment

def find? (environment : Environment) (name : String) : Option String :=
  environment.entries.lookup name

/-- Gives a name a text; a name that is present keeps its place. -/
def insert (environment : Environment) (name text : String) : Environment :=
  ⟨put environment.entries⟩
where
  /-- Replaces the text of the name, or adds it at the end. -/
  put : List (String × String) → List (String × String)
    | [] => [(name, text)]
    | entry :: rest =>
        if entry.1 = name then (name, text) :: rest else entry :: put rest

end Environment

namespace Reference

/-- A character that may begin a name. -/
def opensName (c : Char) : Bool :=
  c.isAlpha || c == '_'

/-- A character that may stand in a name. -/
def inName (c : Char) : Bool :=
  c.isAlphanum || c == '_'

/-- A part of a text: one character, or a reference by its name. -/
inductive Piece where
  | plain (c : Char)
  | reference (name : List Char)
  deriving DecidableEq, Repr

/-- The characters that a part was cut from. -/
def Piece.source : Piece → List Char
  | .plain c => [c]
  | .reference name => '$' :: '{' :: name ++ ['}']

/-- A name up to its closing brace, after the opening one, and what follows. -/
def closedName? (s : List Char) : Option (List Char × List Char) :=
  match s.takeWhile inName, s.dropWhile inName with
  | c :: name, '}' :: rest =>
      if opensName c then some (c :: name, rest) else none
  | _, _ => none

theorem eq_of_closedName {s name rest : List Char}
    (h : closedName? s = some (name, rest)) : s = name ++ '}' :: rest := by
  have whole : s.takeWhile inName ++ s.dropWhile inName = s :=
    List.takeWhile_append_dropWhile
  rw [closedName?] at h
  split at h
  · rename_i taken dropped
    split at h
    · cases h
      rw [← whole, taken, dropped]
    · cases h
  · cases h

/-- Cuts a text into its parts, from left to right. -/
def pieces (s : List Char) : List Piece :=
  match s with
  | [] => []
  | '$' :: '{' :: rest =>
    match _closed : closedName? rest with
    | some (name, after) => .reference name :: pieces after
    | none => .plain '$' :: pieces ('{' :: rest)
  | c :: rest => .plain c :: pieces rest
termination_by s.length
decreasing_by
  · have := congrArg List.length (eq_of_closedName _closed)
    simp at this ⊢
    omega
  · simp
  · simp

/-- The text of a part: that of the name it refers to, or its own characters. -/
def Piece.resolve (environment : Environment) : Piece → List Char
  | .plain c => [c]
  | .reference name =>
    match environment.find? (String.ofList name) with
    | some text => text.toList
    | none => (Piece.reference name).source

/-- Replaces the references in a text. -/
def substitute (environment : Environment) (s : String) : String :=
  String.ofList ((pieces s.toList).flatMap (Piece.resolve environment))

mutual

/-- Replaces the references in every text of a value, at any depth of lists and
mappings. Keys stay as they are. -/
def substituteIn (environment : Environment) : Value → Value
  | .text s => .text (substitute environment s)
  | .list items => .list (substituteInAll environment items)
  | .dict entries => .dict (substituteInEntries environment entries)
  | other => other

/-- Replaces the references in the items of a list. -/
def substituteInAll (environment : Environment) : List Value → List Value
  | [] => []
  | item :: rest =>
      substituteIn environment item :: substituteInAll environment rest

/-- Replaces the references in the values of a mapping. -/
def substituteInEntries (environment : Environment) :
    List (Value × Value) → List (Value × Value)
  | [] => []
  | (key, value) :: rest =>
    (key, substituteIn environment value) :: substituteInEntries
      environment rest

end

mutual

/-- A collection in a value holds itself, where replacing references goes on. It
does not come to an end there. -/
def isEndless : Value → Bool
  | .knot _ => true
  | .list items => anyEndless items
  | .dict entries => anyEndlessEntry entries
  | _ => false

/-- Some item of a list is endless. -/
def anyEndless : List Value → Bool
  | [] => false
  | item :: rest => isEndless item || anyEndless rest

def anyEndlessEntry : List (Value × Value) → Bool
  | [] => false
  | (_, value) :: rest => isEndless value || anyEndlessEntry rest

end

theorem anyEndless_eq_any (items : List Value) :
    anyEndless items = items.any isEndless := by
  induction items with
  | nil => rfl
  | cons item items induction => rw [anyEndless, induction, List.any_cons]

theorem anyEndlessEntry_eq_any (entries : List (Value × Value)) :
    anyEndlessEntry entries = entries.any fun entry => isEndless entry.2 := by
  induction entries with
  | nil => rfl
  | cons entry entries induction =>
      rw [anyEndlessEntry, induction, List.any_cons]

theorem substituteInAll_eq_map (environment : Environment)
    (items : List Value) :
    substituteInAll environment items =
      items.map (substituteIn environment) := by
  induction items with
  | nil => rfl
  | cons item items induction => rw [substituteInAll, induction, List.map_cons]

theorem substituteInEntries_eq_map (environment : Environment)
    (entries : List (Value × Value)) :
    substituteInEntries environment entries =
      entries.map fun entry => (entry.1, substituteIn environment entry.2) := by
  induction entries with
  | nil => rfl
  | cons entry entries induction =>
      rw [substituteInEntries, induction, List.map_cons]

theorem find?_substituteInEntries (environment : Environment)
    (entries : List (Value × Value)) (name : String) :
    Value.find? (substituteInEntries environment entries) name =
      (Value.find? entries name).map (substituteIn environment) := by
  induction entries with
  | nil => rfl
  | cons entry entries induction =>
      obtain ⟨key, value⟩ := entry
      rw [substituteInEntries]
      cases key with
      | text key =>
          simp only [Value.find?]
          split
          · rfl
          · exact induction
      | _ => exact induction

end Reference

end PageFlow
