import PageFlow.Field
import PageFlow.Step
import PageFlow.Step.Tag
import PageFlow.Value.Json

/-!
# Reading steps

A step from one value of a flow file. The strongest tag present decides the
action; the values of the tag, of its companion and of the limit have to fit.
Whatever does not fit gives a malformed step whose reason quotes the value. It
cannot be quoted when a key has no JSON form or an integer has too many digits,
and it cannot be kept when a key is not a text.
-/

namespace PageFlow

open PageFlow.Decimal

/-- Why a value gives no step at all. -/
inductive StepFault where
  | unquotable (fault : Value.JsonFault)
  | keys (problems : List Problem)
  deriving DecidableEq, Repr

namespace Step

/-- How a key that is not a text is shown in a place. -/
def keyLabel : Value → String
  | .bool b => if b then "1" else "0"
  | key => key.inspect

/-- The keys of an object that are not texts. -/
def keyProblems (raw : List (Value × Value)) : List Problem :=
  raw.filterMap fun (key, _) =>
    match Field.text key with
    | .ok _ => none
    | .error cause => some ⟨["raw", keyLabel key, "[key]"], cause⟩

/-- The limit: the value under `timeout` if that key is present, else under
`timeoutMs`. -/
def timeoutValue (raw : List (Value × Value)) : Value :=
  match Value.find? raw "timeout" with
  | some value => value
  | none => (Value.find? raw "timeoutMs").getD .null

/-- A limit is null or an integer that is not below zero. -/
def readTimeout : Value → Except FieldCause (Option Nat)
  | .null => .ok none
  | value => do return some (← Field.bounded (some 0) none value).toNat

/-- The action of a tag, from the value of the tag and that of its companion. -/
def readAction (tag : Tag) (value companion : Value) :
    Except (List Problem) Action :=
  match tag with
  | .goto | .navigate => one .navigate
  | .click => one .click
  | .type => two .type
  | .waitFor => one .waitFor
  | .screenshot => one .screenshot
  | .verify => two .verify
  | .wait => (Field.placed [tag.field] (Field.duration value)).map .wait
  | .scroll => one .scroll
  | .hover => one .hover
  | .select => two .select
  | .press | .pressKey => one .press
  | .evaluate => one .evaluate
where
  /-- An action with one text. -/
  one (build : String → Action) : Except (List Problem) Action :=
    (Field.placed [tag.field] (Field.text value)).map build
  /-- An action with two texts; the problems of both are listed. -/
  two (build : String → String → Action) : Except (List Problem) Action :=
    let place := (tag.companion?.map Prod.snd).getD ""
    let first := Field.placed [tag.field] (Field.text value)
    let second := Field.placed [place] (Field.text companion)
    match first, second with
    | .ok a, .ok b => .ok (build a b)
    | _, _ => .error (Field.problems first ++ Field.problems second)

/-- The problems of a step, joined for its reason. -/
def problemsText (problems : List Problem) : String :=
  "; ".intercalate (problems.map fun problem =>
    problem.placeText ++ ": " ++ problem.cause.message)

/-- A malformed step. The opening of its reason is followed by the quoted
value. -/
def malformed? (opening : String) (quoted : Value)
    (raw : List (Value × Value)) : Except StepFault Step :=
  match quoted.jsonText? with
  | .error fault => .error (.unquotable fault)
  | .ok text =>
    match keyProblems raw with
    | [] => .ok (ofReason (opening ++ text) raw)
    | problems => .error (.keys problems)

/-- The strongest tag among the keys of an object. -/
def tag? (raw : List (Value × Value)) : Option Tag :=
  Tag.all.find? fun tag => Value.hasKey raw tag.key

/-- The value under the companion key of a tag. A tag without one needs none. -/
def companionValue? (raw : List (Value × Value)) (tag : Tag) : Option Value :=
  match tag.companion? with
  | none => some .null
  | some (key, _) => Value.find? raw key

/-- The step of a tag, or all problems in the order limit, keys, values. -/
def readFields (raw : List (Value × Value)) (tag : Tag) (companion : Value) :
    Except (List Problem) Step :=
  let timeout := Field.placed ["timeout_ms"] (readTimeout (timeoutValue raw))
  let action := readAction tag ((Value.find? raw tag.key).getD .null) companion
  match timeout, keyProblems raw, action with
  | .ok limit, [], .ok found => .ok ⟨found, limit, raw⟩
  | _, keys, _ =>
      .error (Field.problems timeout ++ keys ++ Field.problems action)

def readObject (raw : List (Value × Value)) : Except StepFault Step :=
  match tag? raw with
  | none => malformed? "Unknown step type: " (.dict raw) raw
  | some tag =>
    match companionValue? raw tag with
    | none =>
      let needed := (tag.companion?.map Prod.fst).getD ""
      malformed? ("'" ++ tag.key ++ "' step requires '" ++ needed ++ "': ")
        (.dict raw) raw
    | some companion =>
      match readFields raw tag companion with
      | .ok step => .ok step
      | .error problems =>
        malformed? ("Invalid '" ++ tag.key ++ "' step (" ++ problemsText
          problems ++ "): ")
          (.dict raw) raw

/-- The step of one value of a flow file. A value that is no object is kept
under the key `value`. -/
def read (value : Value) : Except StepFault Step :=
  match value with
  | .dict raw => readObject raw
  | other => malformed? "Unknown step type: " other [(.text "value", other)]

end Step

end PageFlow
