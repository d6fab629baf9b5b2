import PageFlow.Flow.Discovery
import PageFlow.Flow.File
import PageFlow.Runner

/-!
# Targets

Commands name flow files, or directories to search for them. A file with several
documents stands for as many flows.
-/

namespace PageFlow

/-- A fault of a file that its documents or their reading are known to raise.
Such a file is told apart from the others; beyond that a fault ends the
program. -/
def LoadFault.isExpected : LoadFault → Bool
  | .flow (.unquotable _) | .flow .endless => false
  | .yaml _ fault =>
    match fault with
    | .emptyNumber | .numberSize | .truth
      _ | .timestamp | .notText | .endless | .codePointSize =>
        false
    | _ => true
  | _ => true

namespace CommandLine

/-- The flow files of a target. What is no directory stands for itself, whether
it exists or not. -/
def expandTarget (files : FileSystem) (target : String) :
    Except FileFault (List Path) := do
  let path ← files.resolve (Path.ofText target)
  if ← files.isDirectory path then Flow.discover files path true
    else return [path]

/-- The flow files of targets, in their order. -/
def expandTargets (files : FileSystem) (targets : List String) :
    Except FileFault (List Path) :=
  (targets.mapM (expandTarget files)).map List.flatten

/-- The paths where nothing stands. -/
def missingPaths (files : FileSystem) : List Path → Except FileFault (List Path)
  | [] => .ok []
  | path :: rest => do
    let found ← files.exists? path
    let missing ← missingPaths files rest
    return if found then missing else path :: missing

/-- The sources of a flow file: the file itself unless it holds several flows. A
file that cannot be loaded is left to the run, which will tell why. -/
def sourcesOfFile (files : FileSystem) (environment : Environment)
    (path : Path) :
    Except LoadFault (List FlowSource) :=
  match Flow.loadAll files environment path with
  | .ok flows =>
      .ok (if flows.length > 1 then flows.map .flow else [.located path])
  | .error fault =>
      if fault.isExpected then .ok [.located path] else .error fault

def sourcesOf (files : FileSystem) (environment : Environment)
    (paths : List Path) :
    Except LoadFault (List FlowSource) :=
  (paths.mapM (sourcesOfFile files environment)).map List.flatten

/-! ## Validation -/

/-- What a malformed step is told with. -/
def reasonOf (step : Step) : String :=
  match step.action with
  | .malformed reason => reason
  | _ => ""

def flowLines (path : Path) (flow : Flow) : List String :=
  match flow.malformedSteps with
  | [] =>
    ["OK  " ++ path.text ++ "  ->  " ++ flow.name ++ " (" ++
      toString flow.steps.length ++ " steps)"]
  | malformed =>
    ("ERR " ++ path.text ++ "  ->  " ++ flow.name ++ ": " ++
      toString malformed.length ++ " malformed step(s)") ::
    malformed.map fun (number, step) =>
      "      step " ++ toString number ++ ": " ++ reasonOf step

/-- What a validation says of a file, and whether all is well with it. -/
def checkFile (files : FileSystem) (environment : Environment) (path : Path) :
    List String × Bool :=
  match Flow.loadAll files environment path with
  | .error fault => (["ERR " ++ path.text ++ "  ->  " ++ fault.message], false)
  | .ok flows =>
      (flows.flatMap (flowLines path), flows.all (·.malformedSteps.isEmpty))

/-- What a validation says of files, and whether all is well with each of
them. -/
def checkFiles (files : FileSystem) (environment : Environment)
    (paths : List Path) : List String × Bool :=
  let checks := paths.map (checkFile files environment)
  (checks.flatMap (·.1), checks.all (·.2))

/-! ## Paths of options -/

/-- What stands at the path of an option. The end of the text can ask for a
directory. -/
def statusOf (files : FileSystem) (text : String) :
    Except FileFault (Option Node) :=
  if text.isEmpty then .ok none
  else match files.find (Path.ofText text) with
    | .error .nullByte => .error ⟨.nullByte, text⟩
    | .error _ => .ok none
    | .ok .directory => .ok (some .directory)
    | .ok node =>
      match (text.toList.splitOn '/').getLast? with
      | some [] | some ['.'] => .ok none
      | _ => .ok (some node)

/-- The path of an option will do: nothing but a directory may stand there, and
if it is `needed` one does. -/
def admitsPath (files : FileSystem) (text : String) (needed : Bool) :
    Except FileFault Bool :=
  (statusOf files text).map fun
    | some .directory => true
    | some _ => false
    | none => !needed

/-- All paths of the options of a command will do. -/
def admitsPaths (files : FileSystem) :
    List (String × Bool) → Except FileFault Bool
  | [] => .ok true
  | (text, needed) :: rest => do
    if ← admitsPath files text needed then admitsPaths files rest
      else return false

end CommandLine

end PageFlow
