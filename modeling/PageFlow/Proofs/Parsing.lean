import PageFlow.Proofs.Scanning
import PageFlow.Yaml.Content

/-!
# Nodes and their tokens

Whatever a node says is said by a token of the stream: the text of a scalar, and
the kind of a node unless it is the usual one for its form or its spelling. The
parts of a node have larger numbers than the node itself, unless an anchor and
an alias of one name lead back. Composing nodes has no faults of its own that no
check raises.
-/

namespace PageFlow.Yaml

/-! ## What tokens say -/

/-- The tokens hold a tag for an address. A handle at its front stands for the
text that the standard or a directive gives it. -/
inductive Tags (all : List Token) : String → Prop where
  | whole {uri : String} : .tag none uri ∈ all → Tags all uri
  | short {handle base suffix : String} : .tag (some handle) suffix ∈ all →
      (handle, base) ∈ Parse.standardHandles ∨ .handle handle base ∈ all →
        Tags all (base ++ suffix)

/-- The kind is given by a tag. -/
def Tagged (all : List Token) (kind : Kind) : Prop :=
  ∃ uri, Tags all uri ∧ kind = .ofUri uri

/-- The text of a scalar, which is empty for a scalar without a token. -/
def Written (all : List Token) (text : String) : Prop :=
  text = "" ∨ ∃ plain, .scalar text plain ∈ all

/-- The kind is the one that the spelling of a text shows: the text is plain, or
has a lone exclamation mark for its tag. -/
def Spelled (all : List Token) (kind : Kind) (text : String) : Prop :=
  kind = .ofSpelling text ∧
    (text = "" ∨ .scalar text true ∈ all ∨ Tags all "!" ∧ Written all text)

/-- All that a node says is said by tokens. A kind that is not given by a tag is
the one that the spelling of a scalar shows, that of empty nodes, that of texts,
or the usual one of a collection. A value key may be of any form, and is a text
where it stands in a mapping. -/
inductive Node.Of (all : List Token) : Node → Prop where
  | scalar {kind : Kind} {text : String} : Written all text →
      kind ∈ [.null, .text] ∨ Spelled all kind text ∨ Tagged all kind →
      Of all (.scalar kind text)
  | sequence {kind : Kind} {items : List Nat} :
      kind ∈ [.sequence, .text] ∨ Tagged all kind →
        Of all (.sequence kind items)
  | mapping {kind : Kind} {entries : List (Nat × Nat)} :
      kind ∈ [.mapping, .text] ∨ Tagged all kind →
        Of all (.mapping kind entries)

/-- Some name stands at an anchor and at an alias. -/
def Looped (all : List Token) : Prop :=
  ∃ name, .anchor name ∈ all ∧ .alias name ∈ all

/-- A number is not below another one, unless an alias leads back. -/
def Later (all : List Token) (least number : Nat) : Prop :=
  least ≤ number ∨ Looped all

/-- The nodes of a document say what tokens say, and their parts come later than
they do. -/
structure NodesOf (all : List Token) (nodes : Array Node) : Prop where
  said : ∀ {number : Nat} {node : Node},
    nodes[number]? = some node → node.Of all
  parts : ∀ {number : Nat} {node : Node}, nodes[number]? = some node →
    ∀ part ∈ node.parts, Later all (number + 1) part

/-- A parser of a stream has the later ones of its tokens left. The handles and
the anchors that it knows are there as tokens, and it has a number of nodes. -/
structure Parser.Of (all : List Token) (stop : Fault) (least : Nat)
    (parser : Parser) : Prop where
  tokens : parser.tokens ⊆ all
  stop : parser.stop = stop
  handles : ∀ entry ∈ parser.handles,
    entry ∈ Parse.standardHandles ∨ .handle entry.1 entry.2 ∈ all
  anchors : ∀ entry ∈ parser.anchors, .anchor entry.1 ∈ all
  nodes : NodesOf all parser.nodes
  least : least ≤ parser.nodes.size

/-- A fault of the nodes of a stream that no check raises is the one behind its
tokens. -/
def Strands (stop fault : Fault) : Prop :=
  fault.isStray = true → fault = stop

theorem strands_malformed {stop : Fault} : Strands stop .malformed :=
  fun stray => by cases stray

namespace NodesOf

variable {all : List Token} {nodes : Array Node} {node : Node}

theorem nil : NodesOf all #[] := by
  constructor <;> intro number node found
  all_goals
    rw [List.getElem?_toArray] at found
    cases found

theorem push (of : NodesOf all nodes) (said : node.Of all)
    (parts : ∀ part ∈ node.parts, Later all (nodes.size + 1) part) :
    NodesOf all (nodes.push node) := by
  constructor <;> intro number other found
  all_goals
    rw [Array.getElem?_push] at found
    split at found
    · rename_i last
      cases found
      first | exact said | exact last ▸ parts
    · first | exact of.said found | exact of.parts found

theorem set {number : Nat} (of : NodesOf all nodes) (said : node.Of all)
    (parts : ∀ part ∈ node.parts, Later all (number + 1) part) :
    NodesOf all (nodes.setIfInBounds number node) := by
  constructor <;> intro other there found
  all_goals
    rw [Array.getElem?_setIfInBounds] at found
    split at found
    · rename_i same
      split at found
      · cases found
        first | exact said | exact same ▸ parts
      · cases found
    · first | exact of.said found | exact of.parts found

end NodesOf

namespace Parse

/-- An action of a parser of a stream gives something with a property, or ends
with a fault of the stream. The number of nodes does not get smaller. -/
def Keeps {α : Type} (all : List Token) (stop : Fault) (least : Nat)
    (good : α → Prop) (act : Parse α) : Prop :=
  ∀ parser, parser.Of all stop least →
    Yields (fun result => good result.1 ∧ result.2.Of all stop least)
      (Strands stop) (act.run parser)

variable {all : List Token} {stop : Fault} {least : Nat} {α β : Type}
  {good : α → Prop} {good' : β → Prop}

theorem keeps_malformed : Keeps all stop least good (throw .malformed) :=
  fun _ _ => strands_malformed

theorem keeps_malformed_bind {next : β → Parse α} :
    Keeps all stop least good (throw .malformed >>= next) :=
  fun _ _ => strands_malformed

theorem keeps_pure {value : α} (fits : good value) :
    Keeps all stop least good (pure value) :=
  fun _ of => ⟨fits, of⟩

theorem Keeps.bind {act : Parse α} {next : α → Parse β}
    (first : Keeps all stop least good act)
    (second : ∀ value, good value → Keeps all stop least good' (next value)) :
    Keeps all stop least good' (act >>= next) :=
  fun parser of => (first parser of).bind fun result kept =>
    second result.1 kept.1 result.2 kept.2

theorem keeps_get : Keeps all stop least (Parser.Of all stop least) get :=
  fun _ of => ⟨of, of⟩

theorem keeps_modify {f : Parser → Parser}
    (keeps : ∀ parser, parser.Of all stop least →
      (f parser).Of all stop least) :
    Keeps all stop least (fun _ => True) (modify f) :=
  fun parser of => ⟨trivial, keeps parser of⟩

theorem mem_of_lookup {key : String} {value : β} {entries : List (String × β)}
    (found : entries.lookup key = some value) : (key, value) ∈ entries := by
  obtain ⟨before, after, split, _⟩ := List.lookup_eq_some_iff.mp found
  exact split ▸ List.mem_append_right before List.mem_cons_self

/-! ## Single tokens -/

theorem keeps_peek : Keeps all stop least (· ∈ all) peek := by
  intro parser of
  rcases parser with ⟨_ | ⟨token, rest⟩, stop, handles, anchors, nodes⟩
  · exact fun _ => of.stop
  · exact ⟨of.tokens List.mem_cons_self, of⟩

theorem keeps_skip : Keeps all stop least (fun _ => True) skip :=
  keeps_modify fun _ of =>
    { of with tokens := fun _ later => of.tokens (List.mem_of_mem_tail later) }

/-- An anchor and a tag that are there as tokens. -/
structure Labels (all : List Token) (anchor tag : Option String) : Prop where
  anchor : ∀ name, anchor = some name → .anchor name ∈ all
  tag : ∀ uri, tag = some uri → Tags all uri

theorem keeps_tagUri {handle : Option String} {suffix : String}
    (there : .tag handle suffix ∈ all) :
    Keeps all stop least (Tags all) (tagUri handle suffix) := by
  cases handle with
  | none => exact keeps_pure (.whole there)
  | some handle =>
      refine keeps_get.bind fun parser of => ?_
      split
      · rename_i base found
        exact keeps_pure (.short there (of.handles _ (mem_of_lookup found)))
      · exact keeps_malformed

theorem keeps_properties :
    Keeps all stop least (fun labels => Labels all labels.1 labels.2)
      properties := by
  have untagged {name : String} (anchor : .anchor name ∈ all) :
      Labels all (some name) none :=
    ⟨fun _ same => Option.some.inj same ▸ anchor, nofun⟩
  have both {name uri : String} (anchor : .anchor name ∈ all)
      (tag : Tags all uri) :
      Labels all (some name) (some uri) :=
    ⟨fun _ same => Option.some.inj same ▸ anchor,
      fun _ same => Option.some.inj same ▸ tag⟩
  have nameless {uri : String} (tag : Tags all uri) :
      Labels all none (some uri) :=
    ⟨nofun, fun _ same => Option.some.inj same ▸ tag⟩
  refine keeps_peek.bind fun token there => ?_
  split
  · refine keeps_skip.bind fun _ _ => keeps_peek.bind fun next found => ?_
    split
    · exact keeps_skip.bind fun _ _ => (keeps_tagUri found).bind fun _ tag =>
        keeps_pure (both there tag)
    · exact keeps_pure (untagged there)
  · refine keeps_skip.bind fun _ _ => keeps_peek.bind fun next found => ?_
    split
    · exact keeps_skip.bind fun _ _ => (keeps_tagUri there).bind fun _ tag =>
        keeps_pure (both found tag)
    · exact (keeps_tagUri there).bind fun _ tag => keeps_pure (nameless tag)
  · exact keeps_pure ⟨nofun, nofun⟩

/-! ## Nodes -/

variable {anchor tag : Option String}

/-- Adding a node fails where its anchor is known already. Otherwise it has the
next number. -/
theorem run_addNode (anchor : Option String) (node : Node) (parser : Parser) :
    (addNode anchor node).run parser = .error .malformed ∨
      ∃ anchors,
        (∀ entry ∈ anchors, anchor = some entry.1 ∨ entry ∈ parser.anchors) ∧
        (addNode anchor node).run parser = .ok (parser.nodes.size,
          { parser with anchors, nodes := parser.nodes.push node }) := by
  cases anchor with
  | none => exact .inr ⟨parser.anchors, fun _ => .inr, rfl⟩
  | some name =>
      cases known : (parser.anchors.lookup name).isSome with
      | true =>
          left
          simp only [addNode, openAnchor, StateT.run_bind, StateT.run_get,
            pure_bind, known]
          rfl
      | false =>
          refine .inr ⟨(name, parser.nodes.size) :: parser.anchors, ?_, ?_⟩
          · exact List.forall_mem_cons.mpr ⟨.inl rfl, fun _ => .inr⟩
          · simp only [addNode, openAnchor, StateT.run_bind, StateT.run_get,
              pure_bind, known]
            rfl

theorem yields_addNode {node : Node} {parser : Parser}
    (of : parser.Of all stop least) (said : node.Of all)
    (blank : node.parts = [])
    (there : ∀ name, anchor = some name → .anchor name ∈ all) :
    Yields (fun result => least ≤ result.1 ∧
        result.2.Of all stop (result.1 + 1))
      (Strands stop) ((addNode anchor node).run parser) := by
  obtain failed | ⟨anchors, known, added⟩ := run_addNode anchor node parser
  · rw [failed]
    exact strands_malformed
  · rw [added]
    refine ⟨of.least, of.tokens, of.stop, of.handles,
      fun entry member => ?_, ?_, ?_⟩
    · exact (known entry member).elim (there entry.1) (of.anchors entry)
    · exact of.nodes.push said (by rw [blank]; exact List.forall_mem_nil _)
    · exact (Array.size_push _).ge

theorem keeps_addNode {node : Node} (said : node.Of all)
    (blank : node.parts = [])
    (there : ∀ name, anchor = some name → .anchor name ∈ all) :
    Keeps all stop least (Later all least) (addNode anchor node) :=
  fun _ of => (yields_addNode of said blank there).mono
    (fun _ ⟨low, kept⟩ =>
      ⟨.inl low,
        { kept with least := low.trans (Nat.le_of_succ_le kept.least) }⟩)
    fun _ => id

theorem keeps_collection {build : List β → Node} {parts : Parse (List β)}
    {good' : Nat → List β → Prop} (said : ∀ parts, (build parts).Of all)
    (blank : (build []).parts = [])
    (there : ∀ name, anchor = some name → .anchor name ∈ all)
    (each : ∀ least, Keeps all stop least (good' least) parts)
    (later : ∀ least parts, good' least parts → ∀ part ∈ (build parts).parts,
      Later all least part) :
    Keeps all stop least (Later all least) (do
      let number ← addNode anchor (build [])
      setNode number (build (← parts))
      return number) := by
  intro parser of
  refine (yields_addNode of (said []) blank there).bind
    fun (number, _) ⟨low, of⟩ => ?_
  refine (each (number + 1) _ of).bind fun (parts, after) ⟨fits, of⟩ => ?_
  have least : least ≤ after.nodes.size :=
    low.trans (Nat.le_of_succ_le of.least)
  exact ⟨.inl low, { of with
    nodes := of.nodes.set (said parts) (later _ parts fits)
    least := (Array.size_setIfInBounds ..).symm ▸ least }⟩

theorem keeps_empty : Keeps all stop least (Later all least) empty :=
  keeps_addNode (.scalar (.inl rfl) (.inl List.mem_cons_self)) rfl nofun

theorem keeps_aliased {name : String} (there : .alias name ∈ all) :
    Keeps all stop least (Later all least) (aliased name) := by
  refine keeps_get.bind fun parser of => ?_
  split
  · rename_i found
    exact keeps_pure (.inr ⟨name, of.anchors _ (mem_of_lookup found), there⟩)
  · exact keeps_malformed

theorem of_scalarKind {plain : Bool} {text : String}
    (tagged : ∀ uri, tag = some uri → Tags all uri)
    (written : text = "" ∨ .scalar text plain ∈ all) :
    (Node.scalar (scalarKind tag plain text) text).Of all := by
  have said : Written all text := written.imp id fun there => ⟨plain, there⟩
  refine .scalar said ?_
  unfold scalarKind
  split
  · cases plain with
    | false => simp
    | true => exact .inr (.inl ⟨rfl, written.imp id .inl⟩)
  · exact .inr (.inl ⟨rfl, .inr (.inr ⟨tagged _ rfl, said⟩)⟩)
  · exact .inr (.inr ⟨_, tagged _ rfl, rfl⟩)

theorem collectionKind_or {usual : Kind}
    (tagged : ∀ uri, tag = some uri → Tags all uri) :
    collectionKind tag usual ∈ [usual, .text] ∨
      Tagged all (collectionKind tag usual) := by
  unfold collectionKind
  split
  · exact .inl List.mem_cons_self
  · exact .inl List.mem_cons_self
  · exact .inr ⟨_, tagged _ rfl, rfl⟩

theorem keeps_bare (labels : Labels all anchor tag) :
    Keeps all stop least (Later all least) (bare anchor tag) := by
  unfold bare
  dsimp only
  split
  · exact keeps_malformed_bind
  · exact keeps_addNode (of_scalarKind labels.tag (.inl rfl)) rfl labels.anchor

/-- The items of a sequence have numbers from one on. -/
def ItemsFrom (all : List Token) (least : Nat) (items : List Nat) : Prop :=
  ∀ item ∈ items, Later all least item

/-- The keys and values of a mapping have numbers from one on. -/
def EntriesFrom (all : List Token) (least : Nat) (entries : List (Nat × Nat)) :
    Prop :=
  ∀ entry ∈ entries, Later all least entry.1 ∧ Later all least entry.2

theorem keeps_sequenceOf {items : Parse (List Nat)}
    (labels : Labels all anchor tag)
    (each : ∀ least, Keeps all stop least (ItemsFrom all least) items) :
    Keeps all stop least (Later all least) (sequenceOf anchor tag items) :=
  keeps_collection (fun _ => .sequence (collectionKind_or labels.tag)) rfl
    labels.anchor each
    fun _ _ fits => fits

theorem forall_mem_parts {kind : Kind} {entries : List (Nat × Nat)}
    (fits : EntriesFrom all least entries) :
    ∀ part ∈ (Node.mapping kind entries).parts, Later all least part := by
  intro part member
  obtain ⟨entry, among, member⟩ := List.mem_flatMap.mp member
  simp only [List.mem_cons, List.not_mem_nil, or_false] at member
  rcases member with rfl | rfl
  · exact (fits entry among).1
  · exact (fits entry among).2

theorem keeps_mappingOf {entries : Parse (List (Nat × Nat))}
    (labels : Labels all anchor tag)
    (each : ∀ least, Keeps all stop least (EntriesFrom all least) entries) :
    Keeps all stop least (Later all least) (mappingOf anchor tag entries) :=
  keeps_collection (fun _ => .mapping (collectionKind_or labels.tag)) rfl
    labels.anchor each
    fun _ _ => forall_mem_parts

/-! ## Collections -/

/-- What is read with some fuel has numbers from one on. -/
structure Composes (all : List Token) (stop : Fault) (fuel : Nat) : Prop where
  node : ∀ block flat least,
    Keeps all stop least (Later all least) (node fuel block flat)
  blockItems : ∀ least,
    Keeps all stop least (ItemsFrom all least) (blockItems fuel)
  flatItems : ∀ least,
    Keeps all stop least (ItemsFrom all least) (flatItems fuel)
  blockEntries : ∀ least,
    Keeps all stop least (EntriesFrom all least) (blockEntries fuel)
  blockValue : ∀ least, Keeps all stop least (Later all least) (blockValue fuel)
  flowItems : ∀ first least,
    Keeps all stop least (ItemsFrom all least) (flowItems fuel first)
  flowPair : ∀ least,
    Keeps all stop least (EntriesFrom all least) (flowPair fuel)
  flowEntries : ∀ first least,
    Keeps all stop least (EntriesFrom all least) (flowEntries fuel first)
  flowValue : ∀ ending least,
    Keeps all stop least (Later all least) (flowValue fuel ending)

namespace Composes

variable {fuel : Nat}

theorem node_succ (composes : Composes all stop fuel) (block flat : Bool)
    (least : Nat) :
    Keeps all stop least (Later all least)
      (Parse.node (fuel + 1) block flat) := by
  unfold Parse.node
  refine keeps_peek.bind fun token there => ?_
  split
  · exact keeps_skip.bind fun _ _ => keeps_aliased there
  · refine keeps_properties.bind fun (anchor, tag) labels => ?_
    refine keeps_peek.bind fun next found => ?_
    split
    · split
      · exact keeps_sequenceOf labels composes.flatItems
      · exact keeps_bare labels
    · exact keeps_skip.bind fun _ _ =>
        keeps_addNode (of_scalarKind labels.tag (.inr found)) rfl labels.anchor
    · exact keeps_skip.bind fun _ _ =>
        keeps_sequenceOf labels (composes.flowItems true)
    · exact keeps_skip.bind fun _ _ =>
        keeps_mappingOf labels (composes.flowEntries true)
    · split
      · exact keeps_skip.bind fun _ _ =>
          keeps_sequenceOf labels composes.blockItems
      · exact keeps_bare labels
    · split
      · exact keeps_skip.bind fun _ _ =>
          keeps_mappingOf labels composes.blockEntries
      · exact keeps_bare labels
    · exact keeps_bare labels

theorem cons_items {first : Parse Nat} {later : Parse (List Nat)}
    (one : Keeps all stop least (Later all least) first)
    (rest : Keeps all stop least (ItemsFrom all least) later) :
    Keeps all stop least (ItemsFrom all least) (do
      let item ← first
      return item :: (← later)) :=
  one.bind fun _ fits => rest.bind fun _ others =>
    keeps_pure (List.forall_mem_cons.mpr ⟨fits, others⟩)

theorem cons_entries {key value : Parse Nat} {later : Parse (List (Nat × Nat))}
    (one : Keeps all stop least (Later all least) key)
    (other : Keeps all stop least (Later all least) value)
    (rest : Keeps all stop least (EntriesFrom all least) later) :
    Keeps all stop least (EntriesFrom all least) (do
      let key ← key
      let value ← value
      return (key, value) :: (← later)) :=
  one.bind fun _ key => other.bind fun _ value => rest.bind fun _ others =>
    keeps_pure (List.forall_mem_cons.mpr ⟨⟨key, value⟩, others⟩)

theorem no_items : Keeps all stop least (ItemsFrom all least) (pure []) :=
  keeps_pure (List.forall_mem_nil _)

theorem no_entries : Keeps all stop least (EntriesFrom all least) (pure []) :=
  keeps_pure (List.forall_mem_nil _)

theorem blockItems_succ (composes : Composes all stop fuel) (least : Nat) :
    Keeps all stop least (ItemsFrom all least)
      (Parse.blockItems (fuel + 1)) := by
  unfold Parse.blockItems
  refine keeps_peek.bind fun _ _ => ?_
  split
  · refine keeps_skip.bind fun _ _ => keeps_peek.bind fun _ _ => ?_
    dsimp only
    split
    · exact cons_items keeps_empty (composes.blockItems least)
    · exact cons_items keeps_empty (composes.blockItems least)
    · exact cons_items (composes.node true false least)
        (composes.blockItems least)
  · exact keeps_skip.bind fun _ _ => no_items
  · exact keeps_malformed

theorem flatItems_succ (composes : Composes all stop fuel) (least : Nat) :
    Keeps all stop least (ItemsFrom all least)
      (Parse.flatItems (fuel + 1)) := by
  unfold Parse.flatItems
  refine keeps_peek.bind fun _ _ => ?_
  split
  · refine keeps_skip.bind fun _ _ => keeps_peek.bind fun _ _ => ?_
    dsimp only
    split
    iterate 4 exact cons_items keeps_empty (composes.flatItems least)
    exact cons_items (composes.node true false least) (composes.flatItems least)
  · exact no_items

theorem blockEntries_succ (composes : Composes all stop fuel) (least : Nat) :
    Keeps all stop least (EntriesFrom all least)
      (Parse.blockEntries (fuel + 1)) := by
  unfold Parse.blockEntries
  refine keeps_peek.bind fun _ _ => ?_
  split
  · exact keeps_skip.bind fun _ _ => no_entries
  · refine keeps_skip.bind fun _ _ => keeps_peek.bind fun _ _ => ?_
    dsimp only
    split
    · exact cons_entries keeps_empty (composes.blockValue least)
        (composes.blockEntries least)
    · exact cons_entries (composes.node true true least)
        (composes.blockValue least)
        (composes.blockEntries least)
  · exact keeps_malformed

theorem blockValue_succ (composes : Composes all stop fuel) (least : Nat) :
    Keeps all stop least (Later all least) (Parse.blockValue (fuel + 1)) := by
  unfold Parse.blockValue
  refine keeps_peek.bind fun _ _ => ?_
  split
  · refine keeps_skip.bind fun _ _ => keeps_peek.bind fun _ _ => ?_
    split
    · exact keeps_empty
    · exact composes.node true true least
  · exact keeps_empty

/-- Behind the first part of a collection in brackets there is a comma before
the next one. -/
theorem comma {token : Token} {first : Bool} {act : Parse α}
    (keeps : Keeps all stop least good act) :
    Keeps all stop least good (if !first then match token with
      | .flowEntry => skip >>= fun _ => act
      | _ => (throw .malformed : Parse Unit) >>= fun _ => act
    else act) := by
  split
  · split
    · exact keeps_skip.bind fun _ _ => keeps
    · exact keeps_malformed_bind
  · exact keeps

theorem flowItems_succ (composes : Composes all stop fuel) (first : Bool)
    (least : Nat) :
    Keeps all stop least (ItemsFrom all least)
      (Parse.flowItems (fuel + 1) first) := by
  unfold Parse.flowItems
  refine keeps_peek.bind fun _ _ => ?_
  split
  · exact keeps_skip.bind fun _ _ => no_items
  · refine comma (keeps_peek.bind fun _ _ => ?_)
    split
    · exact keeps_skip.bind fun _ _ =>
        cons_items (keeps_mappingOf ⟨nofun, nofun⟩ composes.flowPair)
          (composes.flowItems false least)
    · exact keeps_skip.bind fun _ _ => no_items
    · exact cons_items (composes.node false false least)
        (composes.flowItems false least)

theorem flowPair_succ (composes : Composes all stop fuel) (least : Nat) :
    Keeps all stop least (EntriesFrom all least)
      (Parse.flowPair (fuel + 1)) := by
  unfold Parse.flowPair
  refine keeps_peek.bind fun _ _ => ?_
  dsimp only
  split
  iterate 3
    exact cons_entries keeps_empty (composes.flowValue _ least) no_entries
  exact cons_entries (composes.node false false least)
    (composes.flowValue _ least) no_entries

theorem flowEntries_succ (composes : Composes all stop fuel) (first : Bool)
    (least : Nat) :
    Keeps all stop least (EntriesFrom all least)
      (Parse.flowEntries (fuel + 1) first) := by
  unfold Parse.flowEntries
  refine keeps_peek.bind fun _ _ => ?_
  split
  · exact keeps_skip.bind fun _ _ => no_entries
  · refine comma (keeps_peek.bind fun _ _ => ?_)
    have later := composes.flowEntries false least
    split
    · refine keeps_skip.bind fun _ _ => keeps_peek.bind fun _ _ => ?_
      dsimp only
      split
      iterate 3
        exact cons_entries keeps_empty (composes.flowValue _ least) later
      exact cons_entries (composes.node false false least)
        (composes.flowValue _ least) later
    · exact keeps_skip.bind fun _ _ => no_entries
    · exact cons_entries (composes.node false false least) keeps_empty later

theorem flowValue_succ (composes : Composes all stop fuel) (ending : Token)
    (least : Nat) :
    Keeps all stop least (Later all least)
      (Parse.flowValue (fuel + 1) ending) := by
  unfold Parse.flowValue
  refine keeps_peek.bind fun _ _ => ?_
  split
  · refine keeps_skip.bind fun _ _ => keeps_peek.bind fun _ _ => ?_
    split
    · exact keeps_empty
    · exact composes.node false false least
  · exact keeps_empty

end Composes

theorem composes (all : List Token) (stop : Fault) (fuel : Nat) :
    Composes all stop fuel := by
  induction fuel with
  | zero =>
      -- Fuel that runs out is told like any other text that is no YAML.
      constructor
      all_goals intros; exact keeps_malformed
  | succ fuel composes =>
      exact ⟨composes.node_succ, composes.blockItems_succ,
        composes.flatItems_succ, composes.blockEntries_succ,
        composes.blockValue_succ, composes.flowItems_succ,
        composes.flowPair_succ, composes.flowEntries_succ,
        composes.flowValue_succ⟩

/-! ## Documents -/

/-- The handles of tags that a document knows. -/
def HandlesOf (all : List Token) (handles : List (String × String)) : Prop :=
  ∀ entry ∈ handles, entry ∈ standardHandles ∨ .handle entry.1 entry.2 ∈ all

theorem keeps_directives {fuel : Nat} {versioned : Bool}
    {handles : List (String × String)} (known : HandlesOf all handles) :
    Keeps all stop least (HandlesOf all)
      (directives fuel versioned handles) := by
  induction fuel generalizing versioned handles with
  | zero => exact keeps_malformed
  | succ fuel induction =>
      unfold directives
      refine keeps_peek.bind fun _ there => ?_
      split
      · dsimp only
        split
        · exact keeps_malformed_bind
        · exact keeps_skip.bind fun _ _ => induction known
      · dsimp only
        split
        · exact keeps_malformed_bind
        · exact keeps_skip.bind fun _ _ =>
            induction (List.forall_mem_cons.mpr ⟨.inr there, known⟩)
      · exact keeps_skip.bind fun _ _ => induction known
      · exact keeps_pure
          (List.forall_mem_append.mpr ⟨known, fun _ member => .inl member⟩)

theorem keeps_skipEnds {fuel : Nat} :
    Keeps all stop least (fun _ => True) (skipEnds fuel) := by
  induction fuel with
  | zero => exact keeps_pure trivial
  | succ fuel induction =>
      refine keeps_peek.bind fun _ _ => ?_
      split
      · exact keeps_skip.bind fun _ _ => induction
      · exact keeps_pure trivial

theorem keeps_content {fuel : Nat} :
    Keeps all stop least (Later all least) (content fuel) := by
  refine keeps_peek.bind fun _ _ => ?_
  split
  · exact keeps_empty
  · exact (composes all stop fuel).node true false least

theorem keeps_endDocument :
    Keeps all stop least (fun _ => True) endDocument := by
  refine keeps_peek.bind fun _ _ => ?_
  split
  · exact keeps_skip
  · exact keeps_pure trivial

/-- All that a document says is said by tokens, and its parts come in order. -/
theorem keeps_document {first : Bool} :
    Keeps all stop 0 (fun _ => True) (document first) := by
  have ended {number : Nat} :
      Keeps all stop 0 (fun _ => True)
        (endDocument >>= fun _ => pure (some number)) :=
    keeps_endDocument.bind fun _ _ => keeps_pure trivial
  unfold document
  refine keeps_get.bind fun parser _ => ?_
  extract_lets fuel
  -- Anchors, nodes and handles of an earlier document are gone, so what is
  -- known of them holds at once.
  refine Keeps.bind (keeps_modify fun parser of => { of with
    anchors := List.forall_mem_nil _
    nodes := .nil
    least := Nat.zero_le _ }) fun _ _ => ?_
  refine keeps_peek.bind fun _ _ => ?_
  split
  · refine Keeps.bind
      (keeps_modify fun parser of => { of with handles := fun _ => .inl })
      fun _ _ => ?_
    exact ((composes all stop fuel).node true false 0).bind fun _ _ => ended
  · refine keeps_skipEnds.bind fun _ _ => keeps_peek.bind fun _ _ => ?_
    split
    · exact keeps_pure trivial
    · refine (keeps_directives (List.forall_mem_nil _)).bind
        fun handles known => ?_
      refine Keeps.bind
        (keeps_modify fun parser of => { of with handles := known })
        fun _ _ => ?_
      refine keeps_peek.bind fun _ _ => ?_
      split
      · exact keeps_malformed_bind
      · exact keeps_skip.bind fun _ _ => keeps_content.bind fun _ _ => ended

end Parse

end PageFlow.Yaml
