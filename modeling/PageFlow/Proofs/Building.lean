import PageFlow.Proofs.Parsing

/-!
# Faults of the values of a stream

Reading a stream of YAML documents ends with a fault that no check raises for
six reasons only: an escape names a character by too large a number, mappings
that stand for texts lead back to one of them, a tag gives a kind to a scalar
that has nothing of its form, a word for a truth value has a line break behind
it, a tag makes a date of a mapping, or a number has too many parts in base
sixty. A document that is a part of itself has an anchor and an alias of one
name.
-/

namespace PageFlow.Yaml

open PageFlow.Reference PageFlow.Text

variable {all : List Token} {stop : Fault}

/-! ## Scalars -/

/-- A text without a value: a tag gives it a kind that it does not fit, a lone
exclamation mark leaves it the kind of a word though it has a line break behind
the word, a mapping that stands for it is tagged as a date, or it is a number
with too many parts. -/
inductive Valueless (all : List Token) : Fault → Prop where
  | tag {kind : Kind} {text : String} {fault : Fault} : Tagged all kind →
      Written all text → Misfit kind text fault → Valueless all fault
  | word {word : String} : Tags all "!" → word ∈ Spelling.truthWords →
      Written all (word ++ "\n") → Valueless all (.truth (lower (word ++ "\n")))
  | date : Tagged all .timestamp → Valueless all .notText
  | number {text : String} : Written all text → Overlong text →
      Valueless all .numberSize

/-- A fault of a value that no check raises: a text without a value, or mappings
without end. -/
def Blames (all : List Token) (fault : Fault) : Prop :=
  fault.isStray = true → Valueless all fault ∨ fault = .endless ∧ Looped all

theorem blames_malformed : Blames all .malformed :=
  fun stray => by cases stray

variable {nodes : Array Node}

theorem written_of_scalarText {fuel number : Nat} {text : String}
    (of : NodesOf all nodes) (found : scalarText nodes fuel number = .ok text) :
    Written all text := by
  induction fuel generalizing number with
  | zero => cases found
  | succ fuel induction =>
      unfold scalarText at found
      split at found
      · rename_i there
        cases found
        cases of.said there with
        | scalar written => exact written
      · split at found
        · exact induction found
        · cases found
      · cases found

/-- Going from mapping to mapping has an end unless an alias leads back, since
numbers get larger on the way. -/
theorem looped_of_scalarText {fuel number : Nat} {fault : Fault}
    (of : NodesOf all nodes)
    (failed : scalarText nodes fuel number = .error fault)
    (stray : fault.isStray = true) :
    fault = .endless ∧
      (Looped all ∨ fuel = 0 ∨ number + fuel ≤ nodes.size) := by
  induction fuel generalizing number with
  | zero =>
      cases failed
      exact ⟨rfl, .inr (.inl rfl)⟩
  | succ fuel induction =>
      unfold scalarText at failed
      split at failed
      · cases failed
      · rename_i kind entries there
        split at failed
        · rename_i entry under
          obtain ⟨same, ends⟩ := induction failed
          refine ⟨same, ?_⟩
          have part : entry.2 ∈ (Node.mapping kind entries).parts :=
            List.mem_flatMap.mpr ⟨entry,
              List.mem_of_find?_eq_some under, by simp⟩
          have inside : number < nodes.size :=
            (Array.getElem?_eq_some_iff.mp there).1
          rcases of.parts there _ part with later | loop
          · rcases ends with loop | last | ends
            · exact .inl loop
            · exact .inr (.inr (by omega))
            · exact .inr (.inr (by omega))
          · exact .inl loop
        · cases failed
          cases stray
      · cases failed
        cases stray

theorem or_of_textValue {node : Node} {text : String} {fault : Fault}
    (failed : textValue node text = .error fault) :
    (∃ entries, node = .mapping .timestamp entries) ∧ fault = .notText ∨
      scalarValue node.kind text = .error fault := by
  unfold textValue at failed
  split at failed
  · cases failed
    exact .inl ⟨⟨_, rfl⟩, rfl⟩
  · exact .inr failed

/-- A scalar without a tag has the form of its kind, so it has a value unless a
check tells otherwise, a break follows a word, or it is a number with too many
parts. -/
theorem valueless_of_textValue {fuel number : Nat} {node : Node} {text : String}
    {fault : Fault} (tight : ∀ token ∈ all, token.IsTight)
    (of : NodesOf all nodes) (there : nodes[number]? = some node)
    (scalar : Kind.isScalar node.kind = true)
    (found : scalarText nodes (fuel + 1) number = .ok text)
    (failed : textValue node text = .error fault)
    (stray : fault.isStray = true) : Valueless all fault := by
  have written := written_of_scalarText of found
  have said := of.said there
  obtain ⟨⟨entries, rfl⟩, rfl⟩ | failed := or_of_textValue failed
  case inl =>
    cases said with
    | mapping shown =>
        rcases shown with usual | tagged
        · simp at usual
        · exact .date tagged
  obtain misfit | ⟨rfl, overlong⟩ := or_of_scalarValue failed stray
  case inr => exact .number written overlong
  rw [scalarText, there] at found
  cases said with
  | scalar own shown =>
      cases found
      rcases shown with usual | ⟨rfl, how⟩ | tagged
      · simp only [List.mem_cons, List.not_mem_nil, or_false] at usual
        rcases usual with rfl | rfl <;> cases misfit
      · obtain ⟨word, shows, rfl, rfl⟩ := exists_of_misfit_ofSpelling misfit
        rcases how with none | plain | ⟨marked, _⟩
        · exact absurd (congrArg String.toList none) (by simp)
        · exact absurd (by simp) (tight _ plain)
        · exact .word marked shows written
      · exact .tag tagged written misfit
  | sequence => cases found
  | mapping shown =>
      rcases shown with usual | tagged
      · simp only [List.mem_cons, List.not_mem_nil, or_false] at usual
        rcases usual with rfl | rfl
        · cases scalar
        · cases misfit
      · exact .tag tagged written misfit

/-! ## Objects -/

/-- The object of a node holds parts that come later than the node, and no value
that is without end. -/
inductive Object.Of (all : List Token) (number : Nat) : Object → Prop where
  | value {value : Value} : isEndless value = false →
    Of all number (.value value)
  | list {items : List Nat} : Parse.ItemsFrom all (number + 1) items →
      Of all number (.list items)
  | pairs {items : List (Nat × Nat)} : Of all number (.pairs items)
  | dict {entries : List (Value × Nat)} :
      (∀ entry ∈ entries, Later all (number + 1) entry.2) →
        Of all number (.dict entries)
  | set {items : List Value} : Of all number (.set items)

def ObjectsOf (all : List Token) (objects : Array (Option Object)) : Prop :=
  ∀ {number : Nat} {object : Object}, objects[number]? = some (some object) →
    object.Of all number

/-- A builder has nodes that say what tokens say, and objects of these. -/
structure Builder.Of (all : List Token) (builder : Builder) : Prop where
  nodes : NodesOf all builder.nodes
  objects : ObjectsOf all builder.objects

theorem isEndless_scalarValue {kind : Kind} {text : String} {value : Value}
    (built : scalarValue kind text = .ok value) : isEndless value = false := by
  cases kind with
  | null | text =>
      cases built
      rfl
  | truth =>
      unfold scalarValue truthValue at built
      dsimp only at built
      split at built
      · cases built
        rfl
      · split at built <;> cases built
        rfl
  | int | float =>
      obtain ⟨_, _, built⟩ := exists_of_bind_eq_ok built
      obtain ⟨_, _, built⟩ := exists_of_bind_eq_ok built
      cases built
      rfl
  | binary =>
      unfold scalarValue binaryValue at built
      dsimp only at built
      split at built
      · split at built <;> cases built
        rfl
      · cases built
  | timestamp =>
      rw [scalarValue, timestampValue] at built
      split at built
      · cases built
      · dsimp only at built
        split at built
        all_goals
          split at built <;> cases built
          rfl
  | _ => cases built

theorem isEndless_textValue {node : Node} {text : String} {value : Value}
    (built : textValue node text = .ok value) : isEndless value = false := by
  unfold textValue at built
  split at built
  · cases built
  · exact isEndless_scalarValue built

theorem Object.of_blank {kind : Kind} {object : Object} {number : Nat}
    (blank : Object.blank? kind = some object) : object.Of all number := by
  unfold Object.blank? at blank
  split at blank <;> cases blank
  · exact .list (List.forall_mem_nil _)
  · exact .dict (List.forall_mem_nil _)
  · exact .set
  · exact .pairs
  · exact .pairs

theorem Later.trans {first second third : Nat} (one : Later all first second)
    (other : Later all (second + 1) third) : Later all first third := by
  rcases one with one | loop
  · exact other.imp (fun other => by omega) id
  · exact .inr loop

theorem Later.entries {first second : Nat} {entries : List (Nat × Nat)}
    (one : Later all first second)
    (fits : Parse.EntriesFrom all (second + 1) entries) :
    Parse.EntriesFrom all first entries :=
  fun entry member =>
    ⟨one.trans (fits entry member).1, one.trans (fits entry member).2⟩

namespace Build

/-- An action of a builder gives something with a property, or ends with a fault
of the text. -/
def Keeps {α : Type} (all : List Token) (good : α → Prop) (act : Build α) :
    Prop :=
  ∀ builder, builder.Of all →
    Yields (fun result => good result.1 ∧ result.2.Of all) (Blames all)
    (act.run builder)

variable {α β : Type} {good : α → Prop} {good' : β → Prop} {number : Nat}

theorem keeps_malformed : Keeps all good (throw .malformed) :=
  fun _ _ => blames_malformed

theorem keeps_pure {value : α} (fits : good value) :
    Keeps all good (pure value) :=
  fun _ of => ⟨fits, of⟩

theorem Keeps.bind {act : Build α} {next : α → Build β}
    (first : Keeps all good act)
    (second : ∀ value, good value → Keeps all good' (next value)) :
    Keeps all good' (act >>= next) :=
  fun builder of => (first builder of).bind fun result kept =>
    second result.1 kept.1 result.2 kept.2

theorem Keeps.mono {act : Build α} {weaker : α → Prop}
    (keeps : Keeps all good act)
    (implies : ∀ value, good value → weaker value) : Keeps all weaker act :=
  fun builder of => (keeps builder of).mono
    (fun result kept => ⟨implies result.1 kept.1, kept.2⟩) fun _ => id

theorem keeps_get : Keeps all (Builder.Of all) get :=
  fun _ of => ⟨of, of⟩

theorem keeps_modify {f : Builder → Builder}
    (keeps : ∀ builder, builder.Of all → (f builder).Of all) :
    Keeps all (fun _ => True) (modify f) :=
  fun builder of => ⟨trivial, keeps builder of⟩

theorem keeps_lift {result : Except Fault α}
    (yields : Yields good (Blames all) result) :
    Keeps all good (liftM result) := by
  intro builder of
  cases result with
  | error fault => exact yields
  | ok value => exact ⟨yields, of⟩

theorem keeps_forM {f : β → Build Unit} {items : List β}
    (each : ∀ item, Keeps all (fun _ => True) (f item)) :
    Keeps all (fun _ => True) (items.forM f) := by
  induction items with
  | nil => exact keeps_pure trivial
  | cons item items induction =>
      exact (each item).bind fun _ _ => induction

theorem keeps_mapM {f : β → Build α} {items : List β}
    (each : ∀ item ∈ items, Keeps all good (f item)) :
    Keeps all (∀ value ∈ ·, good value) (items.mapM f) := by
  induction items with
  | nil => exact keeps_pure (List.forall_mem_nil _)
  | cons item items induction =>
      obtain ⟨first, later⟩ := List.forall_mem_cons.mp each
      rw [List.mapM_cons]
      exact first.bind fun _ found => (induction later).bind fun _ rest =>
        keeps_pure (List.forall_mem_cons.mpr ⟨found, rest⟩)

/-! ### Nodes -/

theorem keeps_nodeAt : Keeps all
    (fun node => node.Of all ∧ ∀ part ∈ node.parts, Later all (number + 1) part)
    (nodeAt number) := by
  refine keeps_get.bind fun builder of => ?_
  split
  · exact keeps_pure ⟨of.nodes.said ‹_›, of.nodes.parts ‹_›⟩
  · exact keeps_malformed

theorem entriesFrom_of_parts {kind : Kind} {entries : List (Nat × Nat)}
    {least : Nat}
    (parts : ∀ part ∈ (Node.mapping kind entries).parts, Later all least part) :
    Parse.EntriesFrom all least entries :=
  fun entry member =>
    ⟨parts _ (List.mem_flatMap.mpr ⟨entry, member, by simp⟩),
      parts _ (List.mem_flatMap.mpr ⟨entry, member, by simp⟩)⟩

theorem keeps_entriesAt :
    Keeps all (Parse.EntriesFrom all (number + 1)) (entriesAt number) := by
  refine keeps_nodeAt.bind fun node ⟨_, parts⟩ => ?_
  split
  · exact keeps_pure (entriesFrom_of_parts parts)
  · exact keeps_malformed

theorem keeps_setNode {node : Node} (said : node.Of all)
    (parts : ∀ part ∈ node.parts, Later all (number + 1) part) :
    Keeps all (fun _ => True) (setNode number node) :=
  keeps_modify fun _ of => { of with nodes := of.nodes.set said parts }

theorem keeps_setEntries {entries : List (Nat × Nat)}
    (fits : Parse.EntriesFrom all (number + 1) entries) :
    Keeps all (fun _ => True) (setEntries number entries) := by
  refine keeps_nodeAt.bind fun node ⟨said, _⟩ => ?_
  split
  · cases said with
    | mapping shown =>
        exact keeps_setNode (.mapping shown) (Parse.forall_mem_parts fits)
  · exact keeps_malformed

theorem keeps_setObject {object : Object} (of : object.Of all number) :
    Keeps all (fun _ => True) (setObject number object) := by
  refine keeps_modify fun builder kept => { kept with objects := ?_ }
  intro other found there
  rw [Array.getElem?_setIfInBounds] at there
  split at there
  · rename_i same
    split at there
    · cases there
      exact same ▸ of
    · cases there
  · exact kept.objects there

/-! ### Merge keys -/

theorem keeps_asText : Keeps all (fun _ => True) (asText number) := by
  refine keeps_nodeAt.bind fun node ⟨said, parts⟩ => ?_
  split
  · cases said with
    | scalar written =>
        exact keeps_setNode (.scalar written (.inl (by simp)))
          (List.forall_mem_nil _)
  · exact keeps_setNode (.sequence (.inl (by simp))) parts
  · exact keeps_setNode (.mapping (.inl (by simp))) parts

variable {flatten : Nat → Build Unit}

theorem keeps_takenOver
    (flattens : ∀ number, Keeps all (fun _ => True) (flatten number)) :
    Keeps all (Parse.EntriesFrom all (number + 1))
      (takenOver flatten number) := by
  have taken (number : Nat) : Keeps all (Parse.EntriesFrom all (number + 1)) (do
      let _ ← entriesAt number
      flatten number
      entriesAt number) :=
    keeps_entriesAt.bind fun _ _ => (flattens number).bind fun _ _ =>
      keeps_entriesAt
  refine keeps_nodeAt.bind fun node ⟨_, parts⟩ => ?_
  split
  · refine (keeps_mapM fun item member =>
      (taken item).mono fun _ fits =>
        (parts item member).entries fits).bind fun found fits => ?_
    refine keeps_pure fun entry member => ?_
    obtain ⟨part, among, inside⟩ := List.mem_flatten.mp member
    exact fits part (List.mem_reverse.mp among) entry inside
  · exact taken number

theorem keeps_mergeFrom {steps place : Nat}
    (flattens : ∀ number, Keeps all (fun _ => True) (flatten number)) :
    Keeps all (Parse.EntriesFrom all (number + 1))
      (mergeFrom flatten number steps place) := by
  induction steps generalizing place with
  | zero => exact keeps_pure (List.forall_mem_nil _)
  | succ steps induction =>
      refine keeps_entriesAt.bind fun entries own => ?_
      split
      · exact keeps_pure (List.forall_mem_nil _)
      · rename_i key value found
        have later : Later all (number + 1) value :=
          (own _ (List.mem_of_getElem? found)).2
        refine keeps_nodeAt.bind fun _ _ => ?_
        split
        · have kept :
              Parse.EntriesFrom all (number + 1) (entries.eraseIdx place) :=
            fun entry member => own entry (List.mem_of_mem_eraseIdx member)
          refine (keeps_setEntries kept).bind fun _ _ => ?_
          refine (keeps_takenOver flattens).bind fun taken fits => ?_
          exact induction.bind fun rest others =>
            keeps_pure (List.forall_mem_append.mpr ⟨later.entries fits, others⟩)
        · exact keeps_asText.bind fun _ _ => induction
        · exact induction

theorem keeps_flatten {depth : Nat} :
    Keeps all (fun _ => True) (Build.flatten depth number) := by
  induction depth generalizing number with
  | zero => exact keeps_malformed
  | succ depth induction =>
      refine keeps_entriesAt.bind fun _ _ => ?_
      refine (keeps_mergeFrom fun _ => induction).bind fun taken fits => ?_
      refine keeps_entriesAt.bind fun entries own => ?_
      exact keeps_setEntries (List.forall_mem_append.mpr ⟨fits, own⟩)

/-! ### Collections -/

theorem keeps_construct (tight : ∀ token ∈ all, token.IsTight) :
    Keeps all (fun _ => True) (construct number) := by
  refine keeps_get.bind fun builder of => ?_
  split
  · exact keeps_pure trivial
  · exact keeps_malformed
  · rename_i node there _
    split
    · exact (keeps_setObject (Object.of_blank ‹_›)).bind fun _ _ =>
        keeps_modify fun _ kept => ⟨kept.nodes, kept.objects⟩
    · split
      · rename_i scalar
        have shown : Yields
            (fun text => scalarText builder.nodes (builder.nodes.size + 1)
              number = .ok text)
            (Blames all)
              (scalarText builder.nodes (builder.nodes.size + 1) number) := by
          cases found : scalarText builder.nodes
            (builder.nodes.size + 1) number with
          | ok text => rfl
          | error fault =>
              intro stray
              obtain ⟨rfl, loop | none | ends⟩ :=
                looped_of_scalarText of.nodes found stray
              · exact .inr ⟨rfl, loop⟩
              · cases none
              · omega
        refine (keeps_lift shown).bind fun text found => ?_
        have valued : Yields (fun value => isEndless value = false) (Blames all)
            (textValue node text) := by
          cases built : textValue node text with
          | ok value => exact isEndless_textValue built
          | error fault =>
              exact fun stray => .inl
                (valueless_of_textValue tight of.nodes there scalar
                  found built stray)
        exact (keeps_lift valued).bind fun value finite =>
          keeps_setObject (.value finite)
      · exact keeps_malformed

theorem keeps_keyAt : Keeps all (fun _ => True) (keyAt number) := by
  refine keeps_get.bind fun builder of => ?_
  split
  · exact keeps_pure trivial
  · exact keeps_malformed

theorem forall_mem_insertEntry {p : α → Prop} {entries : List (Value × α)}
    {key : Value} {value : α} (each : ∀ entry ∈ entries, p entry.2)
    (fits : p value) :
    ∀ entry ∈ Value.insertEntry entries key value, p entry.2 := by
  induction entries with
  | nil => exact List.forall_mem_singleton.mpr fits
  | cons first rest induction =>
      obtain ⟨one, others⟩ := List.forall_mem_cons.mp each
      unfold Value.insertEntry
      split
      · exact List.forall_mem_cons.mpr ⟨fits, others⟩
      · exact List.forall_mem_cons.mpr ⟨one, induction others⟩

theorem keeps_dictOf (tight : ∀ token ∈ all, token.IsTight) {least : Nat}
    {built : List (Value × Nat)} {entries : List (Nat × Nat)}
    (each : ∀ entry ∈ built, Later all least entry.2)
    (fits : Parse.EntriesFrom all least entries) :
    Keeps all (fun built => ∀ entry ∈ built, Later all least entry.2)
      (dictOf built entries) := by
  induction entries generalizing built with
  | nil => exact keeps_pure each
  | cons entry entries induction =>
      obtain ⟨⟨_, later⟩, others⟩ := List.forall_mem_cons.mp fits
      exact (keeps_construct tight).bind fun _ _ =>
        keeps_keyAt.bind fun key _ =>
        (keeps_construct tight).bind fun _ _ =>
          induction (forall_mem_insertEntry each later) others

theorem keeps_pairOf (tight : ∀ token ∈ all, token.IsTight) :
    Keeps all (fun _ => True) (pairOf number) := by
  refine keeps_nodeAt.bind fun node _ => ?_
  split
  · exact (keeps_construct tight).bind fun _ _ =>
      (keeps_construct tight).bind fun _ _ =>
      keeps_pure trivial
  · exact keeps_malformed

theorem keeps_mappingOf (tight : ∀ token ∈ all, token.IsTight) :
    Keeps all (fun entries => ∀ entry ∈ entries, Later all (number + 1) entry.2)
      (mappingOf number) :=
  keeps_entriesAt.bind fun _ _ => keeps_get.bind fun _ _ =>
    keeps_flatten.bind fun _ _ =>
    keeps_entriesAt.bind fun _ fits =>
      keeps_dictOf tight (List.forall_mem_nil _) fits

theorem keeps_fill (tight : ∀ token ∈ all, token.IsTight) :
    Keeps all (fun _ => True) (fill number) := by
  have pairs {items : List Nat} : Keeps all (fun _ => True)
      (items.mapM pairOf >>= fun pairs => setObject number (.pairs pairs)) :=
    (keeps_mapM fun _ _ => keeps_pairOf tight).bind fun _ _ =>
      keeps_setObject .pairs
  refine keeps_nodeAt.bind fun node ⟨_, parts⟩ => ?_
  split
  · exact (keeps_forM fun _ => keeps_construct tight).bind fun _ _ =>
      keeps_setObject (.list parts)
  · exact (keeps_mappingOf tight).bind fun _ fits =>
      keeps_setObject (.dict fits)
  · exact (keeps_mappingOf tight).bind fun _ _ => keeps_setObject .set
  · exact pairs
  · exact pairs
  · exact keeps_malformed

theorem keeps_fillAll (tight : ∀ token ∈ all, token.IsTight) {rounds : Nat} :
    Keeps all (fun _ => True) (fillAll rounds) := by
  induction rounds with
  | zero => exact keeps_malformed
  | succ rounds induction =>
      refine keeps_get.bind fun builder _ => ?_
      dsimp only
      split
      · exact keeps_pure trivial
      · refine Keeps.bind (keeps_modify fun _ of => ⟨of.nodes, of.objects⟩)
          fun _ _ => ?_
        exact (keeps_forM fun _ => keeps_fill tight).bind fun _ _ => induction

theorem keeps_document (tight : ∀ token ∈ all, token.IsTight) :
    Keeps all (fun _ => True) (document number) :=
  (keeps_construct tight).bind fun _ _ => keeps_get.bind fun _ _ =>
    keeps_fillAll tight

end Build

/-! ## Streams -/

/-- A value is without end only where an alias leads back, since the numbers of
the objects get larger from the outside to the inside. -/
theorem looped_of_unrolled {objects : Array (Option Object)} {fuel number : Nat}
    {paired : Bool} {around : List Nat} (of : ObjectsOf all objects)
    (outer : ∀ other ∈ around, other < number) (some : 0 < fuel)
    (enough : objects.size < fuel + number)
    (ends : isEndless (unrolled objects fuel paired around number) = true) :
    Looped all := by
  induction fuel generalizing number paired around with
  | zero => exact absurd some (Nat.lt_irrefl 0)
  | succ fuel induction =>
      have apart : around.contains number = false := by
        rw [List.contains_eq_mem, decide_eq_false_iff_not]
        exact fun member => Nat.lt_irrefl _ (outer number member)
      rw [unrolled, apart] at ends
      simp only [Bool.false_eq_true, if_false] at ends
      have deeper {part : Nat} (inside : number < objects.size)
          (later : Later all (number + 1) part)
          (ends : isEndless
            (unrolled objects fuel paired (number :: around) part) = true) :
          Looped all := by
        rcases later with later | loop
        · refine induction (fun other member => ?_) (by omega) (by omega) ends
          rcases List.mem_cons.mp member with rfl | member
          · exact later
          · exact (outer other member).trans later
        · exact loop
      split at ends
      · cases of ‹_› with
        | value finite => exact Bool.noConfusion (ends.symm.trans finite)
      · rename_i there
        have inside := (Array.getElem?_eq_some_iff.mp there).1
        rw [isEndless, anyEndless_eq_any, List.any_map,
          List.any_eq_true] at ends
        obtain ⟨item, member, ends⟩ := ends
        cases of there with
        | list later => exact deeper inside (later item member) ends
      · rw [isEndless, anyEndless_eq_any, List.any_map,
          List.any_eq_true] at ends
        obtain ⟨item, _, ends⟩ := ends
        cases ends
      · rename_i there
        have inside := (Array.getElem?_eq_some_iff.mp there).1
        rw [isEndless, anyEndlessEntry_eq_any, List.any_map,
          List.any_eq_true] at ends
        obtain ⟨entry, member, ends⟩ := ends
        cases of there with
        | dict later => exact deeper inside (later entry member) ends
      · cases ends
      · cases ends

/-- What a stream of YAML documents holds where reading it ends with a fault
that no check raises. -/
inductive Strays (text : String) : Fault → Prop where
  | escape : HoldsOversized text.toList → Strays text .codePointSize
  | loop : Looped (tokens text).1 → Strays text .endless
  | scalar {fault : Fault} : Valueless (tokens text).1 fault → Strays text fault

theorem Valueless.isStray {fault : Fault} (valueless : Valueless all fault) :
    fault.isStray = true := by
  cases valueless with
  | tag _ _ misfit => exact misfit.isStray
  | word | date | number => rfl

theorem Strays.isStray {text : String} {fault : Fault}
    (strays : Strays text fault) : fault.isStray = true := by
  cases strays with
  | scalar valueless => exact valueless.isStray
  | _ => rfl

/-- The value of a document is without end, or missing without a check, only for
a reason in its tokens. -/
theorem yields_valueOf {nodes : Array Node} {root : Nat}
    (tight : ∀ token ∈ all, token.IsTight) (of : NodesOf all nodes) :
    Yields (fun value => isEndless value = true → Looped all) (Blames all)
      (valueOf nodes root) := by
  have start : Builder.Of all ⟨nodes, Array.replicate nodes.size none, []⟩ := by
    refine ⟨of, fun found => ?_⟩
    rw [Array.getElem?_replicate] at found
    split at found <;> cases found
  have keeps := @Build.keeps_document all root tight _ start
  unfold valueOf
  split
  · rename_i builder found
    rw [found] at keeps
    exact looped_of_unrolled keeps.2.objects (List.forall_mem_nil _)
      (by omega) (by omega)
  · rename_i fault found
    rwa [found] at keeps

theorem yields_documentsFrom {fuel : Nat} {first : Bool} {parser : Parser}
    (tight : ∀ token ∈ all, token.IsTight) (of : parser.Of all stop 0) :
    Yields (fun values => ∀ value ∈ values, isEndless value = true → Looped all)
      (fun fault => fault.isStray = true →
        fault = stop ∨ Valueless all fault ∨ fault = .endless ∧ Looped all)
      (documentsFrom fuel first parser) := by
  induction fuel generalizing first parser with
  | zero => exact fun stray => by cases stray
  | succ fuel induction =>
      have keeps := @Parse.keeps_document all stop first parser of
      unfold documentsFrom
      split
      · rename_i found
        rw [found] at keeps
        exact fun stray => .inl (keeps stray)
      · exact List.forall_mem_nil _
      · rename_i root after found
        rw [found] at keeps
        refine Yields.bind
          ((yields_valueOf tight keeps.2.nodes).mono (fun _ => id)
          fun fault blames stray => .inr (blames stray)) fun value finite => ?_
        exact (induction keeps.2).bind fun values others =>
          List.forall_mem_cons.mpr ⟨finite, others⟩

theorem start_of (text : String) :
    Parser.Of (tokens text).1 (tokens text).2 0
      ⟨(tokens text).1, (tokens text).2, [], [], #[]⟩ :=
  ⟨List.Subset.refl _, rfl, List.forall_mem_nil _, List.forall_mem_nil _, .nil,
    Nat.le_refl 0⟩

theorem yields_documents (text : String) :
    Yields (fun values => ∀ value ∈ values, isEndless value = true →
        Looped (tokens text).1)
      (fun fault => fault.isStray = true → fault = (tokens text).2 ∨
        Valueless (tokens text).1 fault ∨
          fault = .endless ∧ Looped (tokens text).1)
      (documents text) := by
  unfold documents
  exact yields_documentsFrom (tokens_keep text).1 (start_of text)

/-- Every fault of a stream that no check raises has its reason in the text of
the stream. -/
theorem strays_of_documents {text : String} {fault : Fault}
    (failed : documents text = .error fault) (stray : fault.isStray = true) :
    Strays text fault := by
  have yields := yields_documents text
  rw [failed] at yields
  obtain stopped | valueless | ⟨rfl, loop⟩ := yields stray
  · obtain ⟨same, escape⟩ := (tokens_keep text).2 (stopped ▸ stray)
    rw [stopped, same]
    exact .escape escape
  · exact .scalar valueless
  · exact .loop loop

/-- A document that holds itself has an anchor and an alias of one name. -/
theorem looped_of_documents {text : String} {values : List Value}
    {value : Value} (read : documents text = .ok values)
    (member : value ∈ values) (ends : isEndless value = true) :
    Looped (tokens text).1 := by
  have yields := yields_documents text
  rw [read] at yields
  exact yields value member ends

end PageFlow.Yaml
