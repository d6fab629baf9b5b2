import PageFlow.FileSystem

/-!
# Run history

The history of finished runs in a file. The directory of the file is made when
it is missing, and an empty or missing file becomes a table without rows.
-/

namespace PageFlow

/-- A finished run or smoke test. -/
structure RunRecord where
  flowName : String
  baseUrl : String
  passed : Int
  failed : Int
  total : Int
  duration : Int
  createdAt : String
  deriving DecidableEq, Repr, Inhabited

def RunRecord.entry (record : RunRecord) : History.Entry :=
  ⟨some record.flowName, some record.baseUrl, some record.passed,
    some record.failed, some record.total, some record.duration,
    some record.createdAt⟩

namespace History

/-- Why a history cannot be used. -/
inductive Fault where
  | file (fault : FileFault)
  | cannotOpen
  | notDatabase
  | refused (refusal : Refusal)
  deriving DecidableEq, Repr

def Fault.message : Fault → String
  | .file fault => fault.message
  | .cannotOpen => "unable to open database file"
  | .notDatabase => "file is not a database"
  | .refused refusal => refusal.message

/-- Makes sure that a table stands at a path, and gives its place. -/
def connect (files : FileSystem) (path : Path) :
    FileSystem × Except Fault (Place × Table) :=
  match files.ensureDirectory path.parent with
  | (files, .error fault) => (files, .error (.file fault))
  | (files, .ok ()) =>
    match files.filePlace path with
    | .error _ => (files, .error .cannotOpen)
    | .ok place =>
      match files.at? place with
      | some (.history table) => (files, .ok (place, table))
      | some (.file (_ :: _)) => (files, .error .notDatabase)
      | _ => (files.put place (.history .empty), .ok (place, .empty))

/-- Adds a row and gives its number. -/
def record (files : FileSystem) (path : Path) (entry : Entry) :
    FileSystem × Except Fault Nat :=
  match connect files path with
  | (files, .error fault) => (files, .error fault)
  | (files, .ok (place, table)) =>
    match table.insert entry with
    | .error refusal => (files, .error (.refused refusal))
    | .ok (id, table) => (files.put place (.history table), .ok id)

/-- The latest rows, at most so many. -/
def recent (files : FileSystem) (path : Path) (limit : Int) :
    FileSystem × Except Fault (List Row) :=
  match connect files path with
  | (files, .error fault) => (files, .error fault)
  | (files, .ok (_, table)) => (files, (table.recent limit).mapError .refused)

end History

end PageFlow
