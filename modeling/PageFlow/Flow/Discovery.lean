import PageFlow.FileSystem
import PageFlow.Text.Case

/-!
# Discovery of flow files

The flow files below a directory: the files at any depth, or directly in it,
whose names end in one of the suffixes of flow files, in the order of their
paths.
-/

namespace PageFlow.Flow

def suffixes : List String := [".json", ".yaml", ".yml"]

/-- The name of a path ends in a suffix of flow files, in any case. -/
def hasFlowSuffix (path : Path) : Bool :=
  suffixes.contains (Text.lower path.suffix)

/-- The names that lead from one place to another below it. -/
def below? (base place : Place) : Option (List String) :=
  if base.isPrefixOf place ∧ base.length < place.length then
    some (place.drop base.length) else none

/-- The flow files among some nodes that lie below a base, as paths behind
`root`. -/
def candidates (root : Path) (base : Place) (recursive : Bool)
    (nodes : List (Place × Node)) : List Path :=
  nodes.filterMap fun (place, node) =>
    match below? base place with
    | none => none
    | some names =>
      let path : Path := ⟨root.anchor, root.names ++ names⟩
      if (!node matches .directory) && (recursive || names.length == 1) &&
        hasFlowSuffix path then
        some path
      else none

/-- The flow files below a directory, in order. A path that is no directory has
none. -/
def discover (files : FileSystem) (root : Path) (recursive : Bool) :
    Except FileFault (List Path) :=
  match files.isDirectory root with
  | .error fault => .error fault
  | .ok false => .ok []
  | .ok true =>
    match files.locate root with
    | .error _ => .ok []
    | .ok base =>
        .ok ((candidates root base recursive files.nodes).mergeSort Path.le)

end PageFlow.Flow
