import PageFlow.Calendar
import PageFlow.Text.Quoted

/-!
# Faults of YAML streams

A stream that is not YAML has one fault without details. Beyond that, a scalar
can have the form of its kind and still have no value.
-/

namespace PageFlow.Yaml

open PageFlow.Text

/-- Why a stream cannot be read. -/
inductive Fault where
  | malformed
  | codePoint
  | codePointSize
  | integer (base : Nat) (digits : String)
  | tooManyDigits (count : Nat)
  | number (digits : String)
  | emptyNumber
  | numberSize
  | truth (word : String)
  | timestamp
  | notText
  | calendar (fault : CalendarFault)
  | endless
  deriving DecidableEq, Repr

def Fault.message : Fault → String
  | .malformed => "<yaml error>"
  | .codePoint => "chr() arg not in range(0x110000)"
  | .codePointSize => "Python int too large to convert to C int"
  | .integer base digits =>
    "invalid literal for int() with base " ++ toString base ++ ": " ++
      String.ofList ((quoted digits).toList.take 200)
  | .tooManyDigits count =>
    "Exceeds the limit (4300 digits) for integer string conversion: " ++
      "value has " ++
      toString count ++
      " digits; use sys.set_int_max_str_digits() to increase the limit"
  | .number digits => "could not convert string to float: " ++ quoted digits
  | .emptyNumber => "string index out of range"
  | .numberSize => "int too large to convert to float"
  | .truth word => quoted word
  | .timestamp => "'NoneType' object has no attribute 'groupdict'"
  | .notText => "expected string or bytes-like object, got 'list'"
  | .calendar fault => fault.message
  | .endless => "maximum recursion depth exceeded"

end PageFlow.Yaml
