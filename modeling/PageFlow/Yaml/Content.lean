import PageFlow.Yaml.Node
import PageFlow.Yaml.Number

/-!
# Values of YAML nodes

The value of a document, built from its nodes. First every collection is built
without its parts; then the parts of all of these are built, and so on with the
collections among them. So a collection can be a part of itself, and the first
fault is one of the outermost collection that has any. A merge key takes over
the entries of other mappings, in front of the own ones, which replace them.
-/

namespace PageFlow.Yaml

def Kind.isScalar : Kind → Bool
  | .null | .truth | .int | .float | .binary | .timestamp | .text => true
  | _ => false

/-- What a node is built to. The parts of collections are known by the numbers
of their nodes, but keys are scalars. -/
inductive Object where
  | value (value : Value)
  | list (items : List Nat)
  | pairs (items : List (Nat × Nat))
  | dict (entries : List (Value × Nat))
  | set (items : List Value)

/-- A collection without its parts. -/
def Object.blank? : Kind → Option Object
  | .sequence => some (.list [])
  | .mapping => some (.dict [])
  | .set => some (.set [])
  | .orderedMap | .pairs => some (.pairs [])
  | _ => none

/-! ## Scalars -/

/-- The node with a number is a key of a kind. -/
def isKeyOf (nodes : Array Node) (kind : Kind) (number : Nat) : Bool :=
  nodes[number]?.any (·.kind == kind)

/-- The text of a scalar; a mapping stands for the text under its first value
key. Going from mapping to mapping comes to an end unless one of them is come to
again. -/
def scalarText (nodes : Array Node) : Nat → Nat → Except Fault String
  | 0, _ => .error .endless
  | fuel + 1, number =>
    match nodes[number]? with
    | some (.scalar _ text) => .ok text
    | some (.mapping _ entries) =>
      match entries.find? fun entry => isKeyOf nodes .value entry.1 with
      | some entry => scalarText nodes fuel entry.2
      | none => .error .malformed
    | _ => .error .malformed

/-- The value of a node of a scalar kind with the text that it stands for. A
date is looked for in the node itself, so a mapping has none. -/
def textValue (node : Node) (text : String) : Except Fault Value :=
  match node with
  | .mapping .timestamp _ => .error .notText
  | node => scalarValue node.kind text

/-! ## Building -/

/-- What has been built: the nodes, of which some have taken over entries of
others, the objects of those that were come to, and the collections without
their parts, the last one first. -/
structure Builder where
  nodes : Array Node
  objects : Array (Option Object)
  waiting : List Nat

/-- An action that builds objects. -/
abbrev Build (α : Type) := StateT Builder (Except Fault) α

namespace Build

def nodeAt (number : Nat) : Build Node := do
  match (← get).nodes[number]? with
  | some node => return node
  | none => throw .malformed

def entriesAt (number : Nat) : Build (List (Nat × Nat)) := do
  match ← nodeAt number with
  | .mapping _ entries => return entries
  | _ => throw .malformed

/-- Puts a node in place of the one with its number. -/
def setNode (number : Nat) (node : Node) : Build Unit :=
  modify fun builder =>
    { builder with nodes := builder.nodes.setIfInBounds number node }

/-- Puts entries in place of those of a mapping. -/
def setEntries (number : Nat) (entries : List (Nat × Nat)) : Build Unit := do
  match ← nodeAt number with
  | .mapping kind _ => setNode number (.mapping kind entries)
  | _ => throw .malformed

def setObject (number : Nat) (object : Object) : Build Unit :=
  modify fun builder =>
    { builder with
      objects := builder.objects.setIfInBounds number (some object) }

/-! ### Merge keys -/

/-- A value key is a key like any other where it stands in a mapping. -/
def asText (number : Nat) : Build Unit := do
  match ← nodeAt number with
  | .scalar _ text => setNode number (.scalar .text text)
  | .sequence _ items => setNode number (.sequence .text items)
  | .mapping _ entries => setNode number (.mapping .text entries)

/-- The entries under a merge key: those of a mapping, or of the mappings in a
sequence, of which the first one is the strongest and so stands last. -/
def takenOver (flatten : Nat → Build Unit) (number : Nat) :
    Build (List (Nat × Nat)) := do
  let taken (number : Nat) : Build (List (Nat × Nat)) := do
    let _ ← entriesAt number
    flatten number
    entriesAt number
  match ← nodeAt number with
  | .sequence _ items => return (← items.mapM taken).reverse.flatten
  | _ => taken number

/-- Goes over the entries of a mapping from a place on. Merge keys are taken
out, and what they take over is given back. -/
def mergeFrom (flatten : Nat → Build Unit) (number : Nat) :
    Nat → Nat → Build (List (Nat × Nat))
  | 0, _ => return []
  | steps + 1, place => do
    let entries ← entriesAt number
    match entries[place]? with
    | none => return []
    | some (key, value) =>
      match (← nodeAt key).kind with
      | .merge =>
        setEntries number (entries.eraseIdx place)
        let taken ← takenOver flatten value
        return taken ++ (← mergeFrom flatten number steps place)
      | .value =>
        asText key
        mergeFrom flatten number steps (place + 1)
      | _ => mergeFrom flatten number steps (place + 1)

/-- Resolves the merge keys of a mapping, and of the mappings that it takes
entries from. -/
def flatten : Nat → Nat → Build Unit
  | 0, _ => throw .malformed
  | depth + 1, number => do
    let taken ← mergeFrom (flatten depth) number (← entriesAt number).length 0
    setEntries number (taken ++ (← entriesAt number))

/-- The number of entries of all mappings. No more merge keys than these can be
taken out. -/
def entryCount (nodes : Array Node) : Nat :=
  nodes.foldl (fun count node => count + node.parts.length) 0

/-! ### Collections -/

/-- Builds the object of a node, a collection without its parts, unless it was
built before. -/
def construct (number : Nat) : Build Unit := do
  let builder ← get
  match builder.objects[number]?, builder.nodes[number]? with
  | some (some _), _ => return
  | _, none => throw .malformed
  | _, some node =>
    match Object.blank? node.kind with
    | some object =>
      setObject number object
      modify fun builder =>
        { builder with waiting := number :: builder.waiting }
    | none =>
      if node.kind.isScalar then
        let text ← scalarText builder.nodes (builder.nodes.size + 1) number
        setObject number (.value (← textValue node text))
      else throw .malformed

/-- The value of a scalar among the objects. Collections cannot be keys. -/
def keyAt (number : Nat) : Build Value := do
  match (← get).objects[number]? with
  | some (some (.value key)) => return key
  | _ => throw .malformed

/-- Builds the keys and the values of entries, added to those before them. -/
def dictOf (built : List (Value × Nat)) :
    List (Nat × Nat) → Build (List (Value × Nat))
  | [] => return built
  | (key, value) :: rest => do
    construct key
    let found ← keyAt key
    construct value
    dictOf (Value.insertEntry built found value) rest

/-- Builds the key and the value of a mapping of one entry. -/
def pairOf (number : Nat) : Build (Nat × Nat) := do
  match ← nodeAt number with
  | .mapping _ [(key, value)] =>
    construct key
    construct value
    return (key, value)
  | _ => throw .malformed

/-- The entries of a mapping, merge keys resolved. -/
def mappingOf (number : Nat) : Build (List (Value × Nat)) := do
  let _ ← entriesAt number
  flatten (entryCount (← get).nodes + 1) number
  dictOf [] (← entriesAt number)

/-- Builds the parts of a collection. -/
def fill (number : Nat) : Build Unit := do
  let node ← nodeAt number
  match node.kind, node with
  | .sequence, .sequence _ items =>
    items.forM construct
    setObject number (.list items)
  | .mapping, _ => setObject number (.dict (← mappingOf number))
  | .set, _ => setObject number (.set ((← mappingOf number).map Prod.fst))
  | .orderedMap, .sequence _ items | .pairs, .sequence _ items =>
    setObject number (.pairs (← items.mapM pairOf))
  | _, _ => throw .malformed

/-- Builds the parts of the collections that have none yet, round by round. -/
def fillAll : Nat → Build Unit
  | 0 => throw .malformed
  | rounds + 1 => do
    let waiting := (← get).waiting.reverse
    if waiting.isEmpty then return
    modify fun builder => { builder with waiting := [] }
    waiting.forM fill
    fillAll rounds

/-- Builds the object of a root and of all that is part of it. -/
def document (root : Nat) : Build Unit := do
  construct root
  fillAll ((← get).nodes.size + 2)

end Build

/-! ## Values -/

def isMapping : Option (Option Object) → Bool
  | some (some (.dict _)) => true
  | _ => false

/-- The value of an object inside some collections. Where one of these is come
to again there is a knot. Pairs are kept as they are when references are
replaced, so a way around through a pair begins with it. -/
def unrolled (objects : Array (Option Object)) :
    Nat → Bool → List Nat → Nat → Value
  | 0, _, _, number => .knot (isMapping objects[number]?)
  | fuel + 1, paired, around, number =>
    if around.contains number then .knot (isMapping objects[number]?)
    else
      let inside := unrolled objects fuel paired (number :: around)
      let inPair :=
        unrolled objects fuel true (if paired then number :: around else [])
      match objects[number]? with
      | some (some (.value value)) => value
      | some (some (.list items)) => .list (items.map inside)
      | some (some (.pairs items)) =>
        .list (items.map fun item => .pair (inPair item.1) (inPair item.2))
      | some (some (.dict entries)) =>
          .dict (entries.map fun entry => (entry.1, inside entry.2))
      | some (some (.set items)) => .set items
      | _ => .null

def valueOf (nodes : Array Node) (root : Nat) : Except Fault Value :=
  match (Build.document root).run
    ⟨nodes, Array.replicate nodes.size none, []⟩ with
  | .ok (_, builder) =>
      .ok (unrolled builder.objects (2 * builder.objects.size + 2)
        false [] root)
  | .error fault => .error fault

/-- The documents of a stream from a place on, each with its value. -/
def documentsFrom : Nat → Bool → Parser → Except Fault (List Value)
  | 0, _, _ => .error .malformed
  | fuel + 1, first, parser =>
    match (Parse.document first).run parser with
    | .error fault => .error fault
    | .ok (none, _) => .ok []
    | .ok (some root, parser) => do
      let value ← valueOf parser.nodes root
      return value :: (← documentsFrom fuel false parser)

def documents (s : String) : Except Fault (List Value) :=
  let (tokens, stop) := tokens s
  documentsFrom (tokens.length + 2) true ⟨tokens, stop, [], [], #[]⟩

end PageFlow.Yaml
