import PageFlow.Calendar

/-!
# Values of flow files

The data that a flow file can hold. Mappings keep their entries in the order of
first insertion; two keys are the same when they are equal as data, so that `1`,
`1.0` and `true` are one key.
-/

namespace PageFlow

open PageFlow.Decimal

/-- A value read from a file, or given by a caller. A collection may hold
itself; a knot stands in it where the list, or the mapping, comes around
again. -/
inductive Value where
  | null
  | bool (b : Bool)
  | int (n : Int)
  | float (x : Binary64)
  | text (s : String)
  | list (items : List Value)
  | dict (entries : List (Value × Value))
  | bytes (data : List UInt8)
  | date (day : Date)
  | time (moment : DateTime)
  | set (items : List Value)
  | pair (first second : Value)
  | knot (mapping : Bool)
  deriving Inhabited, Repr

namespace Value

/-- A number as a ratio: signed units of 2^-1074. -/
def units? : Value → Option Int
  | .bool b => some (if b then Binary64.one else 0)
  | .int n => some (n * (Binary64.one : Int))
  | .float (.finite negative units) =>
      some (Binary64.signedUnits negative units)
  | _ => none

/-- Microseconds of a date and time; with an offset they count from
Greenwich. -/
def instant (moment : DateTime) : Int :=
  let seconds :=
    Calendar.dayNumber moment.date * 86400 + (moment.hour : Int) * 3600 +
      (moment.minute : Int) * 60 + (moment.second : Int) - moment.offset.getD 0
  seconds * 1000000 + (moment.micro : Int)

/-- Equality of keys: numbers by value, everything else by kind and content. -/
def sameKey (a b : Value) : Bool :=
  match a.units?, b.units? with
  | some u, some v => u == v
  | none, none =>
    match a, b with
    | .null, .null => true
    | .float .nan, .float .nan => true
    | .float x, .float y => x.equal y
    | .text s, .text t => s == t
    | .bytes s, .bytes t => s == t
    | .date s, .date t => s == t
    | .time s, .time t =>
        s.offset.isSome == t.offset.isSome && instant s == instant t
    | _, _ => false
  | _, _ => false

/-- Adds or replaces an entry. A key that is present keeps its place and its
spelling. -/
def insertEntry {α : Type} (entries : List (Value × α)) (key : Value)
    (value : α) : List (Value × α) :=
  match entries with
  | [] => [(key, value)]
  | (k, v) :: rest =>
    if k.sameKey key then (k, value) :: rest
      else (k, v) :: insertEntry rest key value

def find? (entries : List (Value × Value)) (name : String) : Option Value :=
  match entries with
  | [] => none
  | (.text key, value) :: rest =>
      if key = name then some value else find? rest name
  | _ :: rest => find? rest name

/-- Present as a text key, whatever its value. -/
def hasKey (entries : List (Value × Value)) (name : String) : Bool :=
  (find? entries name).isSome

end Value

end PageFlow
