import PageFlow.Environment
import PageFlow.Flow
import PageFlow.Step.Reader

/-!
# Reading flows

A flow from a mapping, after references to the environment are replaced. The
fields are looked at in the order name, base address, description, steps, and
all their problems are told together. A step that does not fit stays in its
place as a malformed one.
-/

namespace PageFlow

open PageFlow.Text

/-- Why a value is no flow. `source` says where the value comes from. -/
inductive FlowFault where
  | notMapping (source : String)
  | invalid (source : String) (problems : List Problem)
  | unquotable (fault : Value.JsonFault)
  | endless
  deriving DecidableEq, Repr

def FlowFault.message : FlowFault → String
  | .notMapping source =>
    "Flow '" ++ source ++ "' must define a mapping/object at the top level."
  | .invalid source problems =>
    "\n".intercalate
      (("Invalid flow '" ++ source ++ "':") :: problems.map fun problem =>
        "  - " ++ problem.placeText ++ ": " ++ problem.cause.message)
  | .unquotable fault => fault.message
  | .endless => "maximum recursion depth exceeded"

namespace Flow

/-- A name is a text with more than blanks; those around it are dropped. -/
def readName : Option Value → Except FieldCause String
  | none => .error .missing
  | some value => do
    let name := trim (← Field.text value)
    if name.isEmpty then throw (.rule "name cannot be empty")
    return name

/-- A text, or nothing when it is missing or null. -/
def readOptionalText : Option Value → Except FieldCause (Option String)
  | none => .ok none
  | some .null => .ok none
  | some value => (Field.text value).map some

/-- The steps of a list of values, in order, up to the first value that gives
none. -/
def readStepList : List Value → Except StepFault (List Step)
  | [] => .ok []
  | value :: rest => do return (← Step.read value) :: (← readStepList rest)

/-- The base address is looked up under two keys, the first of which wins. -/
def baseUrlKey (entries : List (Value × Value)) : String :=
  if Value.hasKey entries "baseUrl" then "baseUrl"
  else if Value.hasKey entries "base_url" then "base_url"
  else "baseUrl"

/-- The steps of a flow: a list, each value of which gives one step. -/
def readSteps :
    Option Value → Except Value.JsonFault (Except (List Problem) (List Step))
  | none => .ok (.error [⟨["steps"], .missing⟩])
  | some (.list values) =>
    match readStepList values with
    | .ok steps => .ok (.ok steps)
    | .error (.unquotable (.key kind)) => .error (.key kind)
    | .error (.unquotable fault) =>
        .ok (.error [⟨["steps"], .rule fault.message⟩])
    | .error (.keys problems) =>
      .ok (.error (problems.map fun problem =>
        { problem with place := "steps" :: problem.place }))
  | some _ => .ok (.error [⟨["steps"], .rule "steps must be a list"⟩])

/-- The flow of the entries of a mapping, or all its problems. -/
def ofEntries (source : String) (entries : List (Value × Value)) :
    Except FlowFault Flow :=
  let name := Field.placed ["name"] (readName (Value.find? entries "name"))
  let key := baseUrlKey entries
  let baseUrl := Field.placed [key] (readOptionalText (Value.find? entries key))
  let description :=
    Field.placed ["description"]
      (readOptionalText (Value.find? entries "description"))
  match readSteps (Value.find? entries "steps") with
  | .error fault => .error (.unquotable fault)
  | .ok steps =>
    match name, baseUrl, description, steps with
    | .ok name, .ok baseUrl, .ok description, .ok steps =>
        .ok ⟨name, baseUrl, description, steps⟩
    | _, _, _, _ =>
      .error (.invalid source (Field.problems name ++ Field.problems baseUrl ++
        Field.problems description ++ Field.problems steps))

def ofValue (environment : Environment) (source : String) (value : Value) :
    Except FlowFault Flow :=
  match value with
  | .dict entries =>
    if Reference.anyEndlessEntry entries then .error .endless
    else ofEntries source (Reference.substituteInEntries environment entries)
  | _ => .error (.notMapping source)

end Flow

end PageFlow
