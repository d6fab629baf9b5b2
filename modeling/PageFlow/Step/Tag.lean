/-!
# Tags of steps

The keys that name an action in a step object. The first tag of `Tag.all` that
is present decides the action, whatever other keys the object has.
-/

namespace PageFlow

/-- A key that names an action. -/
inductive Tag where
  | goto
  | navigate
  | click
  | type
  | waitFor
  | screenshot
  | verify
  | wait
  | scroll
  | hover
  | select
  | press
  | pressKey
  | evaluate
  deriving DecidableEq, Repr

namespace Tag

/-- All tags, the strongest one first. -/
def all : List Tag :=
  [.goto, .navigate, .click, .type, .waitFor, .screenshot, .verify, .wait,
    .scroll, .hover, .select, .press, .pressKey, .evaluate]

/-- The key as it is written in a step object. -/
def key : Tag → String
  | .goto => "goto"
  | .navigate => "navigate"
  | .click => "click"
  | .type => "type"
  | .waitFor => "waitFor"
  | .screenshot => "screenshot"
  | .verify => "verify"
  | .wait => "wait"
  | .scroll => "scroll"
  | .hover => "hover"
  | .select => "select"
  | .press => "press"
  | .pressKey => "pressKey"
  | .evaluate => "evaluate"

/-- What the value of the tag is called in a message. -/
def field : Tag → String
  | .goto | .navigate => "url"
  | .screenshot => "label"
  | .wait => "ms"
  | .press | .pressKey => "key"
  | .evaluate => "script"
  | _ => "selector"

/-- The second key that an action needs, with what its value is called in a
message. -/
def companion? : Tag → Option (String × String)
  | .type => some ("text", "text")
  | .verify => some ("contains", "expected")
  | .select => some ("value", "value")
  | _ => none

end Tag

end PageFlow
