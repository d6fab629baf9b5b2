import PageFlow.Yaml.Lexer
import PageFlow.Yaml.Tag

/-!
# Nodes of YAML documents

The nodes of a document, composed from the tokens of a stream. Each node has a
number, and collections know their parts by number. An alias is the number of
the node under its anchor, which may be a collection around the alias.
-/

namespace PageFlow.Yaml

inductive Node where
  | scalar (kind : Kind) (text : String)
  | sequence (kind : Kind) (items : List Nat)
  | mapping (kind : Kind) (entries : List (Nat × Nat))
  deriving DecidableEq

instance : Inhabited Node := ⟨.scalar .null ""⟩

namespace Node

def kind : Node → Kind
  | .scalar kind _ => kind
  | .sequence kind _ => kind
  | .mapping kind _ => kind

def parts : Node → List Nat
  | .scalar .. => []
  | .sequence _ items => items
  | .mapping _ entries => entries.flatMap fun entry => [entry.1, entry.2]

end Node

/-- What has been read of a stream: the tokens left, the fault behind them, the
handles of tags, and the anchors and nodes of the document. -/
structure Parser where
  tokens : List Token
  stop : Fault
  handles : List (String × String)
  anchors : List (String × Nat)
  nodes : Array Node

/-- An action that reads tokens. -/
abbrev Parse (α : Type) := StateT Parser (Except Fault) α

namespace Parse

/-- The next token. Behind the last one lies the fault of the stream. -/
def peek : Parse Token := do
  let parser ← get
  match parser.tokens with
  | token :: _ => return token
  | [] => throw parser.stop

def skip : Parse Unit :=
  modify fun parser => { parser with tokens := parser.tokens.tail }

def tagUri (handle : Option String) (suffix : String) : Parse String := do
  match handle with
  | none => return suffix
  | some handle =>
    match (← get).handles.lookup handle with
    | some base => return base ++ suffix
    | none => throw .malformed

/-- An anchor and a tag, in either order. -/
def properties : Parse (Option String × Option String) := do
  match ← peek with
  | .anchor name =>
    skip
    match ← peek with
    | .tag handle suffix =>
      skip
      return (some name, some (← tagUri handle suffix))
    | _ => return (some name, none)
  | .tag handle suffix =>
    skip
    match ← peek with
    | .anchor name =>
      skip
      return (some name, some (← tagUri handle suffix))
    | _ => return (none, some (← tagUri handle suffix))
  | _ => return (none, none)

/-- Gives a node to an anchor. A name must not be used twice in a document. -/
def openAnchor (number : Nat) : Option String → Parse Unit
  | none => pure ()
  | some name => do
    if ((← get).anchors.lookup name).isSome then throw .malformed
    modify fun parser =>
      { parser with anchors := (name, number) :: parser.anchors }

def addNode (anchor : Option String) (node : Node) : Parse Nat := do
  let number := (← get).nodes.size
  openAnchor number anchor
  modify fun parser => { parser with nodes := parser.nodes.push node }
  return number

/-- Puts a node in place of the one with its number. -/
def setNode (number : Nat) (node : Node) : Parse Unit :=
  modify fun parser =>
    { parser with nodes := parser.nodes.setIfInBounds number node }

/-- A scalar without text. -/
def empty : Parse Nat :=
  addNode none (.scalar .null "")

/-- The node of an alias. -/
def aliased (name : String) : Parse Nat := do
  match (← get).anchors.lookup name with
  | some number => return number
  | none => throw .malformed

/-- The kind of a scalar: that of its tag; without one, that of its spelling if
it is plain. A lone exclamation mark leaves it to the spelling in every
style. -/
def scalarKind (tag : Option String) (plain : Bool) (text : String) : Kind :=
  match tag with
  | none => if plain then .ofSpelling text else .text
  | some "!" => .ofSpelling text
  | some uri => .ofUri uri

/-- The kind of a collection: that of its tag, or the usual one. -/
def collectionKind (tag : Option String) (usual : Kind) : Kind :=
  match tag with
  | none => usual
  | some "!" => usual
  | some uri => .ofUri uri

/-- A sequence of items. It has its number before they have theirs. -/
def sequenceOf (anchor tag : Option String) (items : Parse (List Nat)) :
    Parse Nat := do
  let kind := collectionKind tag .sequence
  let number ← addNode anchor (.sequence kind [])
  setNode number (.sequence kind (← items))
  return number

/-- A mapping of entries. It has its number before they have theirs. -/
def mappingOf (anchor tag : Option String)
    (entries : Parse (List (Nat × Nat))) : Parse Nat := do
  let kind := collectionKind tag .mapping
  let number ← addNode anchor (.mapping kind [])
  setNode number (.mapping kind (← entries))
  return number

/-- A node without content, which needs an anchor or a tag. -/
def bare (anchor tag : Option String) : Parse Nat := do
  if anchor.isNone && tag.isNone then throw .malformed
  addNode anchor
    (.scalar (scalarKind tag (tag.isNone || tag == some "!") "") "")

/-- The tokens behind which a key or a value of a block mapping is empty. -/
def endsBlockPart : Token → Bool
  | .key | .value | .blockEnd => true
  | _ => false

mutual

/-- A node. Block collections may stand where `block` says so; where `flat` says
so, also a sequence whose dashes are not indented. -/
def node : Nat → Bool → Bool → Parse Nat
  | 0, _, _ => throw .malformed
  | fuel + 1, block, flat => do
    match ← peek with
    | .alias name =>
      skip
      aliased name
    | _ =>
      let (anchor, tag) ← properties
      match ← peek with
      | .blockEntry =>
          if flat then sequenceOf anchor tag (flatItems fuel)
            else bare anchor tag
      | .scalar text plain =>
        skip
        addNode anchor (.scalar (scalarKind tag plain text) text)
      | .flowSequenceStart =>
        skip
        sequenceOf anchor tag (flowItems fuel true)
      | .flowMappingStart =>
        skip
        mappingOf anchor tag (flowEntries fuel true)
      | .blockSequenceStart =>
        if block then
          skip
          sequenceOf anchor tag (blockItems fuel)
        else bare anchor tag
      | .blockMappingStart =>
        if block then
          skip
          mappingOf anchor tag (blockEntries fuel)
        else bare anchor tag
      | _ => bare anchor tag

/-- The items of a block sequence up to its end. -/
def blockItems : Nat → Parse (List Nat)
  | 0 => throw .malformed
  | fuel + 1 => do
    match ← peek with
    | .blockEntry =>
      skip
      let item ← match ← peek with
        | .blockEntry | .blockEnd => empty
        | _ => node fuel true false
      return item :: (← blockItems fuel)
    | .blockEnd =>
      skip
      return []
    | _ => throw .malformed

/-- The items of a sequence whose dashes are not indented. -/
def flatItems : Nat → Parse (List Nat)
  | 0 => throw .malformed
  | fuel + 1 => do
    match ← peek with
    | .blockEntry =>
      skip
      let item ← match ← peek with
        | .blockEntry | .key | .value | .blockEnd => empty
        | _ => node fuel true false
      return item :: (← flatItems fuel)
    | _ => return []

/-- The entries of a block mapping up to its end. A key or a value may be
missing. -/
def blockEntries : Nat → Parse (List (Nat × Nat))
  | 0 => throw .malformed
  | fuel + 1 => do
    match ← peek with
    | .blockEnd =>
      skip
      return []
    | .key =>
      skip
      let key ← if endsBlockPart (← peek) then empty else node fuel true true
      let value ← blockValue fuel
      return (key, value) :: (← blockEntries fuel)
    | _ => throw .malformed

/-- The value of an entry of a block mapping. -/
def blockValue : Nat → Parse Nat
  | 0 => throw .malformed
  | fuel + 1 => do
    match ← peek with
    | .value =>
      skip
      if endsBlockPart (← peek) then empty else node fuel true true
    | _ => empty

/-- The items of a sequence in brackets. A key among them makes a mapping of one
entry. -/
def flowItems : Nat → Bool → Parse (List Nat)
  | 0, _ => throw .malformed
  | fuel + 1, first => do
    match ← peek with
    | .flowSequenceEnd =>
      skip
      return []
    | token =>
      if !first then
        match token with
        | .flowEntry => skip
        | _ => throw .malformed
      match ← peek with
      | .key =>
        skip
        let item ← mappingOf none none (flowPair fuel)
        return item :: (← flowItems fuel false)
      | .flowSequenceEnd =>
        skip
        return []
      | _ =>
        let item ← node fuel false false
        return item :: (← flowItems fuel false)

/-- The only entry of a mapping among the items of a sequence in brackets. -/
def flowPair : Nat → Parse (List (Nat × Nat))
  | 0 => throw .malformed
  | fuel + 1 => do
    let key ← match ← peek with
      | .value | .flowEntry | .flowSequenceEnd => empty
      | _ => node fuel false false
    let value ← flowValue fuel .flowSequenceEnd
    return [(key, value)]

/-- The entries of a mapping in braces. A node without a colon is a key with an
empty value. -/
def flowEntries : Nat → Bool → Parse (List (Nat × Nat))
  | 0, _ => throw .malformed
  | fuel + 1, first => do
    match ← peek with
    | .flowMappingEnd =>
      skip
      return []
    | token =>
      if !first then
        match token with
        | .flowEntry => skip
        | _ => throw .malformed
      match ← peek with
      | .key =>
        skip
        let key ← match ← peek with
          | .value | .flowEntry | .flowMappingEnd => empty
          | _ => node fuel false false
        let value ← flowValue fuel .flowMappingEnd
        return (key, value) :: (← flowEntries fuel false)
      | .flowMappingEnd =>
        skip
        return []
      | _ =>
        let key ← node fuel false false
        let value ← empty
        return (key, value) :: (← flowEntries fuel false)

/-- The value of an entry in a collection that ends with a token. -/
def flowValue : Nat → Token → Parse Nat
  | 0, _ => throw .malformed
  | fuel + 1, ending => do
    match ← peek with
    | .value =>
      skip
      let token ← peek
      if token = .flowEntry ∨ token = ending then empty
        else node fuel false false
    | _ => empty

end

def standardHandles : List (String × String) :=
  [("!", "!"), ("!!", standardUri)]

def directives :
    Nat → Bool → List (String × String) → Parse (List (String × String))
  | 0, _, _ => throw .malformed
  | fuel + 1, versioned, handles => do
    match ← peek with
    | .version major =>
      if versioned || major != 1 then throw .malformed
      skip
      directives fuel true handles
    | .handle name uri =>
      if (handles.lookup name).isSome then throw .malformed
      skip
      directives fuel versioned ((name, uri) :: handles)
    | .directive =>
      skip
      directives fuel versioned handles
    | _ => return handles ++ standardHandles

/-- A token that begins an explicit document, or ends the stream. -/
def opensDocument : Token → Bool
  | .version _ | .handle .. | .directive | .documentStart | .streamEnd => true
  | _ => false

/-- Goes over the markers behind a document. -/
def skipEnds : Nat → Parse Unit
  | 0 => pure ()
  | fuel + 1 => do
    match ← peek with
    | .documentEnd =>
      skip
      skipEnds fuel
    | _ => pure ()

/-- The content of a document behind its start marker. -/
def content (fuel : Nat) : Parse Nat := do
  let token ← peek
  if opensDocument token || token == .documentEnd then empty
  else node fuel true false

/-- The marker behind a document, if there is one. The token behind the document
is looked at. -/
def endDocument : Parse Unit := do
  match ← peek with
  | .documentEnd => skip
  | _ => pure ()

/-- The next document, or nothing at the end of the stream. Only the first
document may begin without a marker. -/
def document (first : Bool) : Parse (Option Nat) := do
  let fuel := 4 * (← get).tokens.length + 8
  modify fun parser => { parser with anchors := [], nodes := #[] }
  if first && !opensDocument (← peek) then
    modify fun parser => { parser with handles := standardHandles }
    let root ← node fuel true false
    endDocument
    return some root
  skipEnds fuel
  if (← peek) == .streamEnd then return none
  let handles ← directives fuel false []
  modify fun parser => { parser with handles }
  if (← peek) != .documentStart then throw .malformed
  skip
  let root ← content fuel
  endDocument
  return some root

end Parse

end PageFlow.Yaml
