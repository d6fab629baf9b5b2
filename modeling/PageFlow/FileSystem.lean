import PageFlow.History.Table
import PageFlow.Path
import PageFlow.Text.Quoted

/-!
# Files

A tree of directories and files. A place is the list of the names from the root;
a path is followed to its place name by name, and every name but the last has to
lead into a directory. A file holds bytes, or the table of a run history.
-/

namespace PageFlow

open PageFlow.Text

/-- What stands at a place. -/
inductive Node where
  | directory
  | file (data : List UInt8)
  | history (table : History.Table)
  deriving Repr

/-- The names from the root to a directory or file. -/
abbrev Place := List String

/-- Everything that exists below the root, and the place from which relative
paths begin. -/
structure FileSystem where
  nodes : List (Place × Node)
  workdir : Place
  deriving Repr

/-- Why a path cannot be used. -/
inductive FileCause where
  | notFound
  | alreadyExists
  | notDirectory
  | isDirectory
  | nameTooLong
  | nullByte
  deriving DecidableEq, Repr

/-- A cause with the path in question. -/
structure FileFault where
  cause : FileCause
  path : String
  deriving DecidableEq, Repr

/-- The number of a cause and its wording. -/
def FileCause.label : FileCause → Nat × String
  | .notFound => (2, "No such file or directory")
  | .alreadyExists => (17, "File exists")
  | .notDirectory => (20, "Not a directory")
  | .isDirectory => (21, "Is a directory")
  | .nameTooLong => (36, "File name too long")
  | .nullByte => (0, "embedded null byte")

def FileFault.message (fault : FileFault) : String :=
  match fault.cause with
  | .nullByte => "embedded null byte"
  | cause =>
    "[Errno " ++ toString cause.label.1 ++ "] " ++ cause.label.2 ++ ": " ++
      quoted fault.path

namespace FileSystem

/-- The longest name and the longest path, in bytes. -/
def nameLimit : Nat := 255
def pathLimit : Nat := 4095

/-- What stands at a place. The root is a directory. -/
def at? (files : FileSystem) (place : Place) : Option Node :=
  if place = [] then some .directory else files.nodes.lookup place

def follow (files : FileSystem) : Place → List String → Except FileCause Place
  | place, [] => .ok place
  | place, name :: rest =>
    match files.at? place with
    | none => .error .notFound
    | some .directory =>
      if name = ".." then files.follow place.dropLast rest
      else if nameLimit < name.utf8ByteSize then .error .nameTooLong
      else files.follow (place ++ [name]) rest
    | some _ => .error .notDirectory

/-- The place of a path. Nothing needs to stand there, but the names before it
have to exist. -/
def locate (files : FileSystem) (path : Path) : Except FileCause Place :=
  if path.text.toList.contains (Char.ofNat 0) then .error .nullByte
  else if pathLimit < path.text.utf8ByteSize then .error .nameTooLong
  else files.follow (if path.isAbsolute then [] else files.workdir) path.names

def find (files : FileSystem) (path : Path) : Except FileCause Node :=
  match files.locate path with
  | .error cause => .error cause
  | .ok place =>
    match files.at? place with
    | some node => .ok node
    | none => .error .notFound

/-- What stands at a path, if the path leads anywhere. A path with too long a
name is refused. -/
def look (files : FileSystem) (path : Path) : Except FileFault (Option Node) :=
  match files.find path with
  | .ok node => .ok (some node)
  | .error .nameTooLong => .error ⟨.nameTooLong, path.text⟩
  | .error _ => .ok none

def exists? (files : FileSystem) (path : Path) : Except FileFault Bool :=
  (files.look path).map Option.isSome

def isDirectory (files : FileSystem) (path : Path) : Except FileFault Bool :=
  (files.look path).map fun
    | some .directory => true
    | _ => false

/-- The bytes of the file at a path. The table of a history has no bytes of its
own here. -/
def read (files : FileSystem) (path : Path) : Except FileFault (List UInt8) :=
  match files.find path with
  | .error cause => .error ⟨cause, path.text⟩
  | .ok .directory => .error ⟨.isDirectory, path.text⟩
  | .ok (.file data) => .ok data
  | .ok (.history _) => .ok []

/-- Puts a node at a place; one that stands there is replaced. -/
def put (files : FileSystem) (place : Place) (node : Node) : FileSystem :=
  { files with nodes := replace files.nodes }
where
  /-- Replaces the node of the place, or adds it at the end. -/
  replace : List (Place × Node) → List (Place × Node)
    | [] => [(place, node)]
    | entry :: rest =>
        if entry.1 = place then (place, node) :: rest else entry :: replace rest

/-- The place of a path at which a file may stand: its directory exists and it
is none itself. -/
def filePlace (files : FileSystem) (path : Path) : Except FileFault Place :=
  match files.locate path with
  | .error cause => .error ⟨cause, path.text⟩
  | .ok place =>
    match files.at? place.dropLast, files.at? place with
    | _, some .directory => .error ⟨.isDirectory, path.text⟩
    | some .directory, _ => .ok place
    | none, _ => .error ⟨.notFound, path.text⟩
    | some _, _ => .error ⟨.notDirectory, path.text⟩

/-- Writes a file; what it held before is lost. -/
def write (files : FileSystem) (path : Path) (data : List UInt8) :
    Except FileFault FileSystem :=
  match files.filePlace path with
  | .error fault => .error fault
  | .ok place => .ok (files.put place (.file data))

def append (files : FileSystem) (path : Path) (data : List UInt8) :
    Except FileFault FileSystem :=
  match files.filePlace path with
  | .error fault => .error fault
  | .ok place =>
    match files.at? place with
    | some (.file before) => .ok (files.put place (.file (before ++ data)))
    | _ => .ok (files.put place (.file data))

/-- Makes one directory, where nothing may stand. -/
def makeDirectory (files : FileSystem) (path : Path) :
    Except FileCause FileSystem :=
  match files.locate path with
  | .error cause => .error cause
  | .ok place =>
    match files.at? place with
    | some _ => .error .alreadyExists
    | none =>
      match files.at? place.dropLast with
      | some .directory => .ok (files.put place .directory)
      | none => .error .notFound
      | some _ => .error .notDirectory

/-- Passes if a directory stands at a path after its making was refused for a
cause. -/
def acceptDirectory (files : FileSystem) (path : Path) (cause : FileCause) :
    Except FileFault Unit :=
  if cause = .nullByte then .error ⟨cause, path.text⟩
  else match files.isDirectory path with
    | .error fault => .error fault
    | .ok true => .ok ()
    | .ok false => .error ⟨cause, path.text⟩

/-- Makes a directory together with those above it; one that exists is left
alone. Directories that were made before a fault stay. `depth` bounds the
directories above. -/
def makeDirectories (files : FileSystem) :
    Nat → Path → FileSystem × Except FileFault Unit
  | depth, path =>
    match files.makeDirectory path with
    | .ok made => (made, .ok ())
    | .error .notFound =>
      match depth with
      | 0 => (files, .error ⟨.notFound, path.text⟩)
      | depth + 1 =>
        match makeDirectories files depth path.parent with
        | (above, .error fault) => (above, .error fault)
        | (above, .ok ()) =>
          match above.makeDirectory path with
          | .ok made => (made, .ok ())
          | .error .notFound => (above, .error ⟨.notFound, path.text⟩)
          | .error cause => (above, above.acceptDirectory path cause)
    | .error cause => (files, files.acceptDirectory path cause)

/-- Makes sure that a directory stands at a path. -/
def ensureDirectory (files : FileSystem) (path : Path) :
    FileSystem × Except FileFault Unit :=
  files.makeDirectories path.names.length path

/-- The absolute path of a path, behind a single slash. Double dots are taken
together with the name before them. -/
def absolute (files : FileSystem) (path : Path) : Path :=
  ⟨.root, Path.normalNames
    (if path.isAbsolute then path.names else files.workdir ++ path.names)⟩

/-- The absolute path of a path that can be looked up at all. Too long a name is
not noticed here. -/
def resolve (files : FileSystem) (path : Path) : Except FileFault Path :=
  if path.text.toList.contains (Char.ofNat 0) then .error ⟨.nullByte, path.text⟩
  else .ok (files.absolute path)

end FileSystem

end PageFlow
