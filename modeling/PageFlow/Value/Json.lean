import PageFlow.Json.Reader
import PageFlow.Json.Writer
import PageFlow.Value.Display

/-!
# Values as JSON

Every JSON document is a value. The other way, a value becomes a document: pairs
become arrays, and bytes, dates, times and sets become their displayed text.
Keys become texts. Three things have no text: a key that is not a scalar of
JSON, an integer with too many digits, and a collection that holds itself. The
first one in reading order is the fault.
-/

namespace PageFlow

mutual

def Json.toValue : Json → Value
  | .null => .null
  | .bool b => .bool b
  | .int n => .int n
  | .float x => .float x
  | .text s => .text s
  | .array items => .list (Json.toValues items)
  | .object members => .dict (Json.toEntries members)

def Json.toValues : List Json → List Value
  | [] => []
  | item :: rest => Json.toValue item :: Json.toValues rest

def Json.toEntries : List (String × Json) → List (Value × Value)
  | [] => []
  | (name, value) :: rest =>
      (.text name, Json.toValue value) :: Json.toEntries rest

end

namespace Value

/-- Why a value has no document: a key that a JSON object cannot hold, by the
word for its kind, an integer with more digits than may be written, or a
collection that holds itself. -/
inductive JsonFault where
  | key (kind : String)
  | tooManyDigits
  | circular
  deriving DecidableEq, Repr

def JsonFault.message : JsonFault → String
  | .key kind => "keys must be str, int, float, bool or None, not " ++ kind
  | .tooManyDigits =>
    "Exceeds the limit (" ++ toString Json.digitLimit ++
      " digits) for integer string conversion; " ++
      "use sys.set_int_max_str_digits() to increase the limit"
  | .circular => "Circular reference detected"

/-- An integer has no more digits than may be read and written. -/
def isWritable (n : Int) : Bool :=
  (Decimal.natDigits n.natAbs).length ≤ Json.digitLimit

mutual

/-- A value can be displayed: none of the integers in it has too many digits. -/
def isShowable : Value → Bool
  | .int n => isWritable n
  | .list items | .set items => areShowable items
  | .dict entries => entriesShowable entries
  | .pair first second => isShowable first && isShowable second
  | _ => true

/-- All items of a collection can be displayed. -/
def areShowable : List Value → Bool
  | [] => true
  | item :: rest => isShowable item && areShowable rest

/-- All keys and values of a mapping can be displayed. -/
def entriesShowable : List (Value × Value) → Bool
  | [] => true
  | (key, value) :: rest =>
    isShowable key && isShowable value && entriesShowable rest

end

def keyName? : Value → Except JsonFault String
  | .text s => .ok s
  | .null => .ok "null"
  | .bool b => .ok (if b then "true" else "false")
  | .int n =>
      if isWritable n then .ok (Decimal.intText n) else .error .tooManyDigits
  | .float x => .ok (Json.floatText x)
  | other => .error (.key other.kindName)

mutual

/-- The document of a value. The integers of a set are written in its displayed
text, too. -/
def toJson? : Value → Except JsonFault Json
  | .null => .ok .null
  | .bool b => .ok (.bool b)
  | .int n => if isWritable n then .ok (.int n) else .error .tooManyDigits
  | .float x => .ok (.float x)
  | .text s => .ok (.text s)
  | .list items => do return .array (← itemsToJson? items)
  | .dict entries => do return .object (← entriesToJson? entries)
  | .pair first second => do return .array [← toJson? first, ← toJson? second]
  | .bytes data => .ok (.text (display (.bytes data)))
  | .date day => .ok (.text (display (.date day)))
  | .time moment => .ok (.text (display (.time moment)))
  | .set items => do
    let _ ← itemsToJson? items
    return .text (display (.set items))
  | .knot _ => .error .circular

def itemsToJson? : List Value → Except JsonFault (List Json)
  | [] => .ok []
  | item :: rest => do return (← toJson? item) :: (← itemsToJson? rest)

/-- The members of an object for the entries of a mapping; every key is looked
at before its value. -/
def entriesToJson? :
    List (Value × Value) → Except JsonFault (List (String × Json))
  | [] => .ok []
  | (key, value) :: rest => do
    let name ← keyName? key
    return (name, ← toJson? value) :: (← entriesToJson? rest)

end

def jsonText? (value : Value) : Except JsonFault String := do
  return Json.line (← value.toJson?)

end Value

end PageFlow
