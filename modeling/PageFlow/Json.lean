import PageFlow.Decimal.Binary64

/-!
# JSON documents

A document as a tree. Objects keep the order of their members, and integers are
kept apart from numbers with a fraction or an exponent.
-/

namespace PageFlow

open PageFlow.Decimal

inductive Json where
  | null
  | bool (b : Bool)
  | int (n : Int)
  | float (x : Binary64)
  | text (s : String)
  | array (items : List Json)
  | object (members : List (String × Json))
  deriving Inhabited, Repr

namespace Json

/-- Adds or replaces a member. A name that is present keeps its place. -/
def insertMember (members : List (String × Json)) (name : String)
    (value : Json) : List (String × Json) :=
  match members with
  | [] => [(name, value)]
  | (n, v) :: rest =>
    if n = name then (n, value) :: rest
      else (n, v) :: insertMember rest name value

def find? (members : List (String × Json)) (name : String) : Option Json :=
  match members with
  | [] => none
  | (n, v) :: rest => if n = name then some v else find? rest name

end Json

end PageFlow
