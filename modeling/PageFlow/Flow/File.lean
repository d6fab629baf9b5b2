import PageFlow.FileSystem
import PageFlow.Flow.Reader
import PageFlow.Text.Utf8
import PageFlow.Yaml.Content

/-!
# Flow files

A flow file holds one JSON document or a stream of YAML documents, told apart by
the suffix of its name. Loading one flow takes the first document that is not
null, loading all takes each of them.
-/

namespace PageFlow

open PageFlow.Text

/-- Why a flow file cannot be loaded. -/
inductive LoadFault where
  | missing (path : String)
  | file (fault : FileFault)
  | encoding (fault : Utf8Fault)
  | json (path : String) (fault : Json.ReadFault)
  | yaml (path : String) (fault : Yaml.Fault)
  | empty (path : String)
  | flow (fault : FlowFault)
  deriving DecidableEq, Repr

/-- The wording of a fault. Only faults of the form of a document name the
file. -/
def LoadFault.message : LoadFault → String
  | .missing path => "Test flow file not found: " ++ path
  | .file fault => fault.message
  | .encoding fault => fault.message
  | .json path (.at cause offset line column) =>
    "JSON parse error in " ++ path ++ ": " ++
      (Json.ReadFault.at cause offset line column).message
  | .json _ fault => fault.message
  | .yaml path .malformed =>
      "YAML parse error in " ++ path ++ ": " ++ Yaml.Fault.malformed.message
  | .yaml _ fault => fault.message
  | .empty path => "No flow found in " ++ path
  | .flow fault => fault.message

namespace Flow

/-- Every end of a line becomes a line feed. -/
def normalLines : List Char → List Char
  | [] => []
  | '\r' :: '\n' :: rest => '\n' :: normalLines rest
  | '\r' :: rest => '\n' :: normalLines rest
  | c :: rest => c :: normalLines rest

def fileText (files : FileSystem) (path : Path) : Except LoadFault String :=
  match files.read path with
  | .error fault => .error (.file fault)
  | .ok data =>
    match decodeUtf8 data with
    | .error fault => .error (.encoding fault)
    | .ok s => .ok (String.ofList (normalLines s.toList))

/-- The name of a file ends in the suffix of JSON files, in any case. -/
def isJsonFile (path : Path) : Bool :=
  lower path.suffix = ".json"

/-- The documents in the text of a file. Null documents of a stream are left
out. -/
def documentsOf (path : Path) (s : String) : Except LoadFault (List Value) :=
  if isJsonFile path then
    match Json.read s with
    | .ok document => .ok [document.toValue]
    | .error fault => .error (.json path.text fault)
  else
    match Yaml.documents s with
    | .ok values => .ok (values.filter fun value => !(value matches .null))
    | .error fault => .error (.yaml path.text fault)

def readDocuments (files : FileSystem) (path : Path) :
    Except LoadFault (List Value) :=
  match files.exists? path with
  | .error fault => .error (.file fault)
  | .ok false => .error (.missing path.text)
  | .ok true =>
    match fileText files path with
    | .error fault => .error fault
    | .ok s => documentsOf path s

/-- Where the document with a number comes from; the first one is named by the
path alone. -/
def documentSource (path : Path) (number : Nat) : String :=
  if number = 1 then path.text
  else path.text ++ " (document " ++ toString number ++ ")"

/-- The flows of documents, the first of which has the given number, up to the
first fault. -/
def ofDocuments (environment : Environment) (path : Path) :
    Nat → List Value → Except FlowFault (List Flow)
  | _, [] => .ok []
  | number, value :: rest => do
    let flow ← ofValue environment (documentSource path number) value
    return flow :: (← ofDocuments environment path (number + 1) rest)

/-- The flow of the first document of a file. -/
def load (files : FileSystem) (environment : Environment) (path : Path) :
    Except LoadFault Flow :=
  match readDocuments files path with
  | .error fault => .error fault
  | .ok [] => .error (.empty path.text)
  | .ok (value :: _) => (ofValue environment path.text value).mapError .flow

/-- The flows of all documents of a file, of which there is at least one. -/
def loadAll (files : FileSystem) (environment : Environment) (path : Path) :
    Except LoadFault (List Flow) :=
  match readDocuments files path with
  | .error fault => .error fault
  | .ok values =>
    match ofDocuments environment path 1 values with
    | .error fault => .error (.flow fault)
    | .ok [] => .error (.empty path.text)
    | .ok flows => .ok flows

end Flow

end PageFlow
