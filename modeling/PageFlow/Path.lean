/-!
# Paths

A path is an anchor and a list of names. Reading drops empty names and single
dots; double dots are names like others.
-/

namespace PageFlow

/-- Where a path begins: at the working directory, at the root, or at the root
written with two slashes. -/
inductive Anchor where
  | relative
  | root
  | doubleRoot
  deriving DecidableEq, Repr, Inhabited

structure Path where
  anchor : Anchor
  names : List String
  deriving DecidableEq, Repr, Inhabited

namespace Path

/-- The anchor that a text begins with; three and more slashes count as one. -/
def anchorOf : List Char → Anchor
  | '/' :: '/' :: '/' :: _ => .root
  | '/' :: '/' :: _ => .doubleRoot
  | '/' :: _ => .root
  | _ => .relative

def namesOf (s : List Char) : List String :=
  ((s.splitOn '/').filter fun name => !name.isEmpty && name != ['.']).map
    String.ofList

def ofText (s : String) : Path :=
  ⟨anchorOf s.toList, namesOf s.toList⟩

theorem anchorOf_of_notMem {s : List Char} (whole : '/' ∉ s) :
    anchorOf s = .relative := by
  unfold anchorOf
  split
  · simp at whole
  · simp at whole
  · simp at whole
  · rfl

/-- A text without slashes is one name, unless it is empty or a dot. -/
theorem ofText_of_notMem {name : String} (whole : '/' ∉ name.toList)
    (some : name ≠ "") (other : name ≠ ".") :
    ofText name = ⟨.relative, [name]⟩ := by
  have chars : name.toList ≠ [] :=
    fun none => some (String.toList_eq_nil_iff.mp none)
  have dot : name.toList ≠ ['.'] :=
    fun same => other (String.toList_injective same)
  simp [ofText, namesOf, anchorOf_of_notMem whole,
    List.splitOn_eq_singleton whole, chars, dot]

def Anchor.text : Anchor → String
  | .relative => ""
  | .root => "/"
  | .doubleRoot => "//"

/-- The text of a path; the empty path is a dot. -/
def text (path : Path) : String :=
  if path.anchor = .relative ∧ path.names = [] then "."
  else Anchor.text path.anchor ++ "/".intercalate path.names

/-- Begins at the root. -/
def isAbsolute (path : Path) : Bool :=
  path.anchor != .relative

/-- A path behind another one; an absolute one stands for itself. -/
def join (base path : Path) : Path :=
  if path.isAbsolute then path else ⟨base.anchor, base.names ++ path.names⟩

def child (base : Path) (name : String) : Path :=
  ⟨base.anchor, base.names ++ [name]⟩

/-- The path without its last name. -/
def parent (path : Path) : Path :=
  ⟨path.anchor, path.names.dropLast⟩

def name (path : Path) : String :=
  path.names.getLast?.getD ""

/-- The part of a name from its last dot on. A dot at either end of the name
opens no suffix. -/
def suffixOf (name : List Char) : List Char :=
  let tail := name.reverse.takeWhile (· ≠ '.')
  if tail.isEmpty || name.length ≤ tail.length + 1 then []
  else '.' :: tail.reverse

def suffix (path : Path) : String :=
  String.ofList (suffixOf path.name.toList)

/-- The names that order paths: an absolute path has its anchor in front. -/
def sortKey (path : Path) : List String :=
  if path.isAbsolute then Anchor.text path.anchor :: path.names else path.names

/-- The order of lists of names, name by name; a list comes after its own
beginnings. -/
def namesLe : List String → List String → Bool
  | [], _ => true
  | _ :: _, [] => false
  | a :: as, b :: bs => if a = b then namesLe as bs else decide (a < b)

/-- The order of paths, name by name. -/
def le (a b : Path) : Bool :=
  namesLe a.sortKey b.sortKey

/-- Takes double dots together with the name before them, without looking at any
file. -/
def normalNames (names : List String) : List String :=
  names.foldl (fun done name => if name = ".." then done.dropLast
    else done ++ [name]) []

end Path

end PageFlow
