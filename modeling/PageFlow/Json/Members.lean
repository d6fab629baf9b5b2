import PageFlow.Json

/-!
# Members of objects

Looking members of an object up by name and kind. A member that is missing, or
of another kind, counts as missing; texts, lists and objects then have an empty
one in their place.
-/

namespace PageFlow.Json

/-- The members of an object, to be looked up by name. -/
abbrev Members := List (String × Json)

/-- The members of an object; other documents have none. -/
def members : Json → Members
  | .object members => members
  | _ => []

/-- The items of an array; other documents have none. -/
def items : Json → List Json
  | .array items => items
  | _ => []

/-- The characters of a text; other documents have none. -/
def asText : Json → String
  | .text s => s
  | _ => ""

namespace Members

/-- The member with a name, null if there is none. -/
def get (m : Members) (name : String) : Json :=
  (find? m name).getD .null

def text? (m : Members) (name : String) : Option String :=
  match m.get name with
  | .text s => some s
  | _ => none

/-- A text, or the empty one. -/
def text (m : Members) (name : String) : String :=
  (m.text? name).getD ""

def int? (m : Members) (name : String) : Option Int :=
  match m.get name with
  | .int n => some n
  | _ => none

def bool? (m : Members) (name : String) : Option Bool :=
  match m.get name with
  | .bool b => some b
  | _ => none

def object (m : Members) (name : String) : Members :=
  (m.get name).members

def array (m : Members) (name : String) : List Json :=
  (m.get name).items

/-- The members that are texts, with their names. -/
def texts (m : Members) : List (String × String) :=
  m.filterMap fun
    | (name, .text s) => some (name, s)
    | _ => none

end Members

end PageFlow.Json
