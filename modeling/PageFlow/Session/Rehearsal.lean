import PageFlow.Json.Members
import PageFlow.Session.Scripted

/-!
# Scripts as documents

A script of a session is written as a JSON object, so that flows can be
rehearsed without a browser: the texts of elements by locator, the title and the
content of the page, the cost of every method in milliseconds, and the failures.
What stands for a fault is left to the reader of the document.
-/

namespace PageFlow

/-- The word of an element's state. -/
def ElementState.ofName (name : String) : ElementState :=
  if name = ElementState.attached.name then .attached else .visible

/-- The call of a method with texts as arguments; a time limit, a delay and a
state are named. -/
def Call.ofName? (method : String) (arguments : List String)
    (options : Json.Members) : Option Call :=
  let limit := (options.int? "timeout_ms").getD 0
  match method, arguments with
  | "goto", [url] => some (.goto url limit)
  | "wait_for", [locator] =>
      some (.waitFor locator (.ofName (options.text "state")) limit)
  | "click", [locator] => some (.click locator)
  | "hover", [locator] => some (.hover locator)
  | "clear", [locator] => some (.clear locator)
  | "type_text", [locator, text] =>
    some (.typeText locator text ((options.int? "delay_ms").getD 0))
  | "select_option", [locator, value] => some (.selectOption locator value)
  | "text_content", [locator] => some (.textContent locator)
  | "scroll_into_view", [locator] => some (.scrollIntoView locator)
  | "screenshot", [path] => some (.screenshot (Path.ofText path))
  | "press_key", [key] => some (.pressKey key)
  | "evaluate", [script] => some (.evaluate script)
  | "title", [] => some .title
  | "content", [] => some .content
  | _, _ => none

namespace Script

/-- A text of the page: the usual one if the member is missing, and none if it
is no text. -/
def pageText (m : Json.Members) (name usual : String) : String :=
  match Json.find? m name with
  | none => usual
  | some document => document.asText

def readFailure (fault : Json.Members → SessionFault) (document : Json) :
    ScriptedFailure :=
  let m := document.members
  ⟨m.text "method", m.text? "arg", m.int? "nth", fault m⟩

def readFault (fault : Json.Members → SessionFault) (m : Json.Members)
    (name : String) : Option SessionFault :=
  match m.get name with
  | .object members => some (fault members)
  | _ => none

def read (fault : Json.Members → SessionFault) (m : Json.Members) : Script where
  texts := (m.object "texts").texts
  title := pageText m "title" plain.title
  content := pageText m "content" plain.content
  costs := (m.object "costs").filterMap fun
    | (name, .int n) => some (name, n.toNat)
    | _ => none
  failures := (m.array "failures").map (readFailure fault)
  launchFault := readFault fault m "launch_error"
  closeFault := readFault fault m "close_error"

end Script

end PageFlow
