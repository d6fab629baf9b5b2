import PageFlow.Text.Letter
import PageFlow.World.Logging
import PageFlow.World.Page

/-!
# Screenshots

A screenshot is named for its label and the time. In a name only letters,
numbers, hyphens and underscores of the label stay as they are, so that it is
always the name of one file.
-/

namespace PageFlow

namespace Screenshot

/-- A character that a name keeps. -/
def keeps (c : Char) : Bool :=
  Text.isLetterOrNumber c || c == '-' || c == '_'

/-- The label as a part of a name. A label without characters has a word in its
place. -/
def stem (label : String) : String :=
  if label.isEmpty then "screenshot"
  else String.ofList (label.toList.map fun c => if keeps c then c else '_')

/-- The time as a part of a name. -/
def stamp (time : DateTime) : String :=
  String.ofList ((Calendar.stampText time).toList.map fun c =>
    if c == ':' || c == '.' then '-' else c)

def fileName (label : String) (time : DateTime) : String :=
  stem label ++ "-" ++ stamp time ++ ".png"

def path (directory : Path) (label : String) (time : DateTime) : Path :=
  directory.child (fileName label time)

end Screenshot

namespace Act

variable {σ : Type}

/-- Takes a screenshot into a directory, which is made if it is missing. A given
time takes the place of the present one. -/
def capture (driver : Driver σ) (directory : Path) (label : String)
    (time : Option DateTime) : Act σ Path := do
  let log ← logger "stepflow.capture.screenshot"
  let present ← now
  let path := Screenshot.path directory label (time.getD present)
  ensureDirectory path.parent
  let _ ← perform driver (.screenshot path)
  Act.log log .debug ("Saved screenshot: " ++ path.text)
  return path

end Act

end PageFlow
