/-!
# Arguments

The arguments of a command are options and positions. An option is a word behind
two hyphens or a letter behind one. It either says something by itself or is
followed by a text: the next argument whatever that looks like, what stands
behind an equals sign after the word, or what stands behind the letter in the
same argument. Letters can stand together behind one hyphen. Two hyphens alone
end the options, and a hyphen alone is a position.
-/

namespace PageFlow.CommandLine

/-- What an option does to the values `α` of a command: it changes them by
itself, or together with a text. -/
inductive Effect (α : Type) where
  | mark (set : α → α)
  | text (set : String → α → α)

/-- An option by its word and its letter. -/
structure Switch (α : Type) where
  word : String
  letter : Option Char
  effect : Effect α

/-- What arguments say: the values of options, the positions in order, and
whether help is asked for. -/
structure Reading (α : Type) where
  values : α
  positions : List String
  help : Bool

variable {α : Type}

/-- An option as a change of a reading. -/
def Switch.inReading (switch : Switch α) : Switch (Reading α) where
  word := switch.word
  letter := switch.letter
  effect := match switch.effect with
    | .mark set =>
        .mark fun reading => { reading with values := set reading.values }
    | .text set =>
        .text fun text reading =>
          { reading with values := set text reading.values }

def helpSwitch : Switch (Reading α) :=
  ⟨"help", some 'h', .mark fun reading => { reading with help := true }⟩

/-- Takes up positions behind those that are there. -/
def Reading.addPositions (reading : Reading α) (positions : List String) :
    Reading α :=
  { reading with positions := reading.positions ++ positions }

/-- The values after an option, and what the next argument does if it is the
text of the option. -/
abbrev OptionResult (α : Type) := α × Option (String → α → α)

/-- Cuts a text at its first equals sign. -/
def splitAtEquals (s : List Char) : List Char × Option String :=
  match s.span (· ≠ '=') with
  | (front, []) => (front, none)
  | (front, _ :: back) => (front, some (String.ofList back))

/-- Reads what stands behind two hyphens. There must be a text exactly where the
option takes one. -/
def readWord (switches : List (Switch α)) (s : List Char) (values : α) :
    Option (OptionResult α) :=
  let (word, attached) := splitAtEquals s
  match switches.find? (·.word == String.ofList word), attached with
  | some ⟨_, _, .mark set⟩, none => some (set values, none)
  | some ⟨_, _, .text set⟩, some text => some (set text values, none)
  | some ⟨_, _, .text set⟩, none => some (values, some set)
  | _, _ => none

/-- Reads letters behind one hyphen. -/
def readLetters (switches : List (Switch α)) :
    List Char → α → Option (OptionResult α)
  | [], values => some (values, none)
  | c :: rest, values =>
    match switches.find? (·.letter == some c) with
    | none => none
    | some ⟨_, _, .mark set⟩ => readLetters switches rest (set values)
    | some ⟨_, _, .text set⟩ =>
      if rest.isEmpty then some (values, some set)
      else some (set (String.ofList rest) values, none)

def readOption? (switches : List (Switch α)) (argument : String) (values : α) :
    Option (Option (OptionResult α)) :=
  match argument.toList with
  | '-' :: '-' :: word => some (readWord switches word values)
  | '-' :: c :: letters => some (readLetters switches (c :: letters) values)
  | _ => none

/-- Reads arguments on top of a reading. `pending` says what the next argument
does as the text of an option. Unless options and positions are `mixed`, the
first position ends the options. -/
def readFrom (switches : List (Switch (Reading α))) (mixed : Bool)
    (pending : Option (String → Reading α → Reading α)) (reading : Reading α) :
    List String → Option (Reading α)
  | [] => if pending.isSome then none else some reading
  | argument :: rest =>
    match pending with
    | some set => readFrom switches mixed none (set argument reading) rest
    | none =>
      if argument = "--" then some (reading.addPositions rest)
      else match readOption? switches argument reading with
        | some none => none
        | some (some (changed, pending)) =>
            readFrom switches mixed pending changed rest
        | none =>
          if mixed then readFrom switches mixed none
            (reading.addPositions [argument]) rest
          else some (reading.addPositions (argument :: rest))

def readArguments (switches : List (Switch α)) (mixed : Bool) (start : α)
    (arguments : List String) : Option (Reading α) :=
  readFrom (helpSwitch :: switches.map Switch.inReading) mixed none
    ⟨start, [], false⟩ arguments

end PageFlow.CommandLine
