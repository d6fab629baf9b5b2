import PageFlow.Proofs.Equality
import PageFlow.Proofs.FlowFiles
import PageFlow.Proofs.Selection

/-!
# Steps of a flow

A value under `steps` is kept when it describes a step, or else when it can be
quoted, and if it is a mapping all its keys have to be texts. A flow with a
fitting header loads exactly when all its values are kept, and then it has one
step for each. Values that were read from JSON are always kept.
-/

namespace PageFlow

open PageFlow.Reference

namespace Step

variable {raw : List (Value × Value)} {tag : Tag} {step : Step} {value : Value}

/-! ## Values that are kept -/

/-- All keys of an object are texts, or bytes that encode one. -/
def TextKeys (raw : List (Value × Value)) : Prop :=
  ∀ entry ∈ raw, ∃ name, Field.text entry.1 = .ok name

/-- A value that is read as a step: it describes one, or it can be quoted in a
malformed one. -/
inductive Keepable : Value → Prop where
  | described {raw : List (Value × Value)} {tag : Tag} {step : Step} :
      TextKeys raw → Valid raw tag step → Keepable (.dict raw)
  | quoted {raw : List (Value × Value)} :
      TextKeys raw → (Value.dict raw).Quotable → Keepable (.dict raw)
  | other {value : Value} : (∀ raw, value ≠ .dict raw) → value.Quotable →
    Keepable value

/-- A value becomes a step: the one that it describes, or a malformed one if it
describes none. -/
structure Becomes (value : Value) (step : Step) : Prop where
  read : Step.read value = .ok step
  described : ¬ step.isMalformed ↔ ∃ raw tag,
    value = .dict raw ∧ Valid raw tag step

theorem keyProblems_eq_nil_iff : keyProblems raw = [] ↔ TextKeys raw := by
  rw [keyProblems, List.filterMap_eq_nil_iff]
  refine forall₂_congr fun entry _ => ?_
  obtain ⟨key, value⟩ := entry
  dsimp only
  cases Field.text key with
  | ok name => simp
  | error cause => simp

theorem read_of_ne_dict (other : ∀ raw, value ≠ .dict raw) :
    Step.read value = malformed? "Unknown step type: " value
      [(.text "value", value)] := by
  cases value with
  | dict raw => exact absurd rfl (other raw)
  | _ => rfl

theorem Keepable.exists_read (keepable : Keepable value) :
    ∃ step, Step.read value = .ok step := by
  cases keepable with
  | @described raw tag step keys valid =>
      exact ⟨step, readObject_of_valid (keyProblems_eq_nil_iff.mpr keys) valid⟩
  | @quoted raw keys quotable =>
      have none := keyProblems_eq_nil_iff.mpr keys
      by_cases described : ∃ tag step, Valid raw tag step
      · obtain ⟨tag, step, valid⟩ := described
        exact ⟨step, readObject_of_valid none valid⟩
      · obtain ⟨opening, read⟩ := readObject_of_invalid fun _ tag step valid =>
          described ⟨tag, step, valid⟩
        obtain ⟨text, written⟩ := Value.exists_jsonText_iff.mpr quotable
        exact ⟨_, read.trans (malformed_eq_ok.mpr ⟨text, written, none, rfl⟩)⟩
  | other other quotable =>
      obtain ⟨text, written⟩ := Value.exists_jsonText_iff.mpr quotable
      exact ⟨_, (read_of_ne_dict other).trans
        (malformed_eq_ok.mpr ⟨text, written, rfl, rfl⟩)⟩

theorem Keepable.textKeys (keepable : Keepable (.dict raw)) : TextKeys raw := by
  cases keepable with
  | described keys _ | quoted keys _ => exact keys
  | other other _ => exact absurd rfl (other raw)

theorem becomes_of_malformed {opening : String} {quoted : Value}
    (read : Step.read value = malformed? opening quoted raw)
    (made : Step.read value = .ok step)
    (invalid : ∀ raw tag, value = .dict raw → ¬ Valid raw tag step) :
    Becomes value step ∧ quoted.Quotable ∧ TextKeys raw := by
  obtain ⟨text, written, keys, rfl⟩ := malformed_eq_ok.mp (read.symm.trans made)
  refine ⟨⟨made, fun sound => absurd rfl sound, ?_⟩,
    Value.exists_jsonText_iff.mp ⟨text, written⟩,
    keyProblems_eq_nil_iff.mp keys⟩
  rintro ⟨raw, tag, same, valid⟩
  exact absurd valid (invalid raw tag same)

/-- What is read was kept, as the step that it describes or as a malformed
one. -/
theorem becomes_of_read (made : Step.read value = .ok step) :
    Becomes value step ∧ Keepable value := by
  by_cases object : ∃ raw, value = .dict raw
  · obtain ⟨raw, rfl⟩ := object
    by_cases described : keyProblems raw = [] ∧ ∃ tag step, Valid raw tag step
    · obtain ⟨none, tag, other, valid⟩ := described
      have same : other = step :=
        Except.ok.inj ((readObject_of_valid none valid).symm.trans made)
      subst same
      refine ⟨⟨made, fun _ => ⟨raw, tag, rfl, valid⟩, fun _ => ?_⟩,
        .described (keyProblems_eq_nil_iff.mp none) valid⟩
      simp [isMalformed, valid.describes.isMalformed]
    · -- A malformed step keeps the object as well, so that an odd key would
      -- have stopped this reading.
      have invalid : keyProblems raw = [] → ∀ tag step, ¬ Valid raw tag step :=
        fun none tag step valid => described ⟨none, tag, step, valid⟩
      obtain ⟨opening, read⟩ := readObject_of_invalid invalid
      obtain ⟨_, _, none, _⟩ := malformed_eq_ok.mp (read.symm.trans made)
      have object :
          Step.read (.dict raw) = malformed? opening (.dict raw) raw :=
        read
      obtain ⟨becomes, quotable, keys⟩ := becomes_of_malformed object made
        fun _ tag same => Value.dict.inj same ▸ invalid none tag step
      exact ⟨becomes, .quoted keys quotable⟩
  · have other : ∀ raw, value ≠ .dict raw := fun raw same => object ⟨raw, same⟩
    obtain ⟨becomes, quotable, _⟩ :=
      becomes_of_malformed (read_of_ne_dict other) made
        fun raw _ same => absurd same (other raw)
    exact ⟨becomes, .other other quotable⟩

theorem exists_read_iff :
    (∃ step, Step.read value = .ok step) ↔ Keepable value :=
  ⟨fun ⟨_, made⟩ => (becomes_of_read made).2, Keepable.exists_read⟩

end Step

namespace Flow

variable {environment : Environment} {source : String}
  {entries : List (Value × Value)} {values : List Value} {name : String}
  {baseUrl description : Option String} {steps : List Step}

/-! ## Flows with a fitting header -/

theorem readStepList_eq_mapM : readStepList values = values.mapM Step.read := by
  induction values with
  | nil => rfl
  | cons value values induction => rw [readStepList, induction, List.mapM_cons]

theorem readSteps_eq_ok : readSteps (some (.list values)) = .ok (.ok steps) ↔
    List.Forall₂ (fun value step => Step.read value = .ok step)
      values steps := by
  rw [← mapM_eq_ok, ← readStepList_eq_mapM, readSteps]
  cases readStepList values with
  | ok read => simp
  | error fault =>
      rcases fault with (_ | _) | problems <;> simp

/-- The name, the base address and the description of a flow are valid. -/
structure Header (entries : List (Value × Value)) (name : String)
    (baseUrl description : Option String) : Prop where
  name : readName (Value.find? entries "name") = .ok name
  baseUrl :
    readOptionalText (Value.find? entries (baseUrlKey entries)) = .ok baseUrl
  description :
    readOptionalText (Value.find? entries "description") = .ok description

theorem ofEntries_eq_ok {flow : Flow} :
    ofEntries source entries = .ok flow ↔
      Header entries flow.name flow.baseUrl flow.description ∧
        ∃ values, Value.find? entries "steps" = some (.list values) ∧
          List.Forall₂ (fun value step => Step.read value = .ok step) values
            flow.steps := by
  constructor
  · intro read
    unfold ofEntries at read
    dsimp only at read
    split at read
    · cases read
    · rename_i steps listed
      split at read
      · rename_i first second third
        cases read
        refine ⟨⟨Step.placed_eq_ok.mp first, Step.placed_eq_ok.mp second,
          Step.placed_eq_ok.mp third⟩, ?_⟩
        cases found : Value.find? entries "steps" with
        | none =>
            rw [found] at listed
            cases listed
        | some value =>
            rw [found] at listed
            cases value with
            | list values => exact ⟨values, rfl, readSteps_eq_ok.mp listed⟩
            | _ => cases listed
      · cases read
  · rintro ⟨header, values, listed, read⟩
    rw [ofEntries, listed, readSteps_eq_ok.mpr read, header.name,
      header.baseUrl, header.description]
    rfl

/-- What a mapping has to be for a flow, with its values before the references
are replaced. -/
theorem ofValue_eq_ok {flow : Flow} :
    ofValue environment source (.dict entries) = .ok flow ↔
      anyEndlessEntry entries = false ∧
        Header (substituteInEntries environment entries) flow.name flow.baseUrl
          flow.description ∧
        ∃ values, Value.find? entries "steps" = some (.list values) ∧
          List.Forall₂ (fun value step =>
              Step.read (substituteIn environment value) = .ok step)
            values flow.steps := by
  rw [ofValue]
  by_cases finite : anyEndlessEntry entries
  · simp [finite]
  rw [Bool.not_eq_true] at finite
  simp only [finite, Bool.false_eq_true, if_false, true_and, ofEntries_eq_ok,
    find?_substituteInEntries]
  refine and_congr_right fun _ => ?_
  constructor
  · rintro ⟨replaced, found, read⟩
    obtain ⟨original, listed, same⟩ := Option.map_eq_some_iff.mp found
    cases original with
    | list values =>
        rw [substituteIn, substituteInAll_eq_map] at same
        obtain rfl := Value.list.inj same
        exact ⟨values, listed, List.forall₂_map_left_iff.mp read⟩
    | _ => cases same
  · rintro ⟨values, listed, read⟩
    refine ⟨values.map (substituteIn environment), ?_,
      List.forall₂_map_left_iff.mpr read⟩
    rw [listed, Option.map_some, substituteIn, substituteInAll_eq_map]

/-! ## Documents of JSON -/

theorem quotable_substituteIn {value : Value} (quotable : value.Quotable) :
    (substituteIn environment value).Quotable := by
  induction quotable with
  | text s => exact .text _
  | list _ items =>
      rw [substituteIn, substituteInAll_eq_map]
      exact .list (List.forall_mem_map.mpr items)
  | dict keys _ values =>
      rw [substituteIn, substituteInEntries_eq_map]
      exact .dict (List.forall_mem_map.mpr keys)
        (List.forall_mem_map.mpr values)
  | int writable => exact .int writable
  | set items => exact .set items
  | pair first second => exact .pair first second
  | _ => constructor

theorem textKeys_substituteInEntries (keys : Step.TextKeys entries) :
    Step.TextKeys (substituteInEntries environment entries) := by
  rw [substituteInEntries_eq_map]
  exact List.forall_mem_map.mpr keys

/-- What was read from JSON is kept, whatever the environment. -/
theorem keepable_of_writable {document : Json} (writable : document.Writable) :
    Step.Keepable (substituteIn environment document.toValue) := by
  have quotable : (substituteIn environment document.toValue).Quotable :=
    quotable_substituteIn writable.quotable
  cases document with
  | object members =>
      have keys : Step.TextKeys (Json.toEntries members) :=
        Step.keyProblems_eq_nil_iff.mp (Step.keyProblems_toEntries members)
      exact .quoted (textKeys_substituteInEntries keys) quotable
  | _ => exact .other (fun _ same => by cases same) quotable

theorem exists_of_find?_toEntries {members : List (String × Json)}
    {key : String} {value : Value}
    (found : Value.find? (Json.toEntries members) key = some value) :
    ∃ member ∈ members, member.2.toValue = value := by
  induction members with
  | nil => cases found
  | cons member members induction =>
      rw [Json.toEntries, Value.find?] at found
      split at found
      · exact ⟨member, List.mem_cons_self, Option.some.inj found⟩
      · obtain ⟨other, among, same⟩ := induction found
        exact ⟨other, List.mem_cons_of_mem _ among, same⟩

theorem keepable_of_read {text : String} {members : List (String × Json)}
    (decoded : Json.read text = .ok (.object members))
    (listed : Value.find? (Json.toEntries members) "steps" =
      some (.list values)) :
    ∀ value ∈ values, Step.Keepable (substituteIn environment value) := by
  intro value member
  obtain ⟨⟨_, document⟩, among, same⟩ := exists_of_find?_toEntries listed
  cases document with
  | array items =>
      rw [Json.toValue] at same
      obtain rfl := Value.list.inj same
      obtain ⟨item, inside, rfl⟩ := Json.mem_toValues.mp member
      cases Json.writable_of_read decoded with
      | object each =>
          cases each _ among with
          | array items => exact keepable_of_writable (items item inside)
  | _ => cases same

mutual

theorem isEndless_toValue :
    ∀ document : Json, isEndless document.toValue = false
  | .null | .bool _ | .int _ | .float _ | .text _ => rfl
  | .array items => anyEndless_toValues items
  | .object members => anyEndlessEntry_toEntries members

theorem anyEndless_toValues :
    ∀ items : List Json, anyEndless (Json.toValues items) = false
  | [] => rfl
  | item :: rest => by
      rw [Json.toValues, anyEndless, isEndless_toValue item,
        anyEndless_toValues rest]
      rfl

theorem anyEndlessEntry_toEntries :
    ∀ members : List (String × Json),
      anyEndlessEntry (Json.toEntries members) = false
  | [] => rfl
  | (_, value) :: rest => by
      rw [Json.toEntries, anyEndlessEntry, isEndless_toValue value,
        anyEndlessEntry_toEntries rest]
      rfl

end

theorem ofValue_toEntries (source : String) (members : List (String × Json)) :
    ofValue environment source (.dict (Json.toEntries members)) =
      ofEntries source
        (substituteInEntries environment (Json.toEntries members)) := by
  rw [ofValue, anyEndlessEntry_toEntries]
  rfl

theorem ofEntries_of_ofValue {flow : Flow}
    (read : ofValue environment source (.dict entries) = .ok flow) :
    ofEntries source (substituteInEntries environment entries) = .ok flow := by
  rw [ofValue] at read
  split at read
  · cases read
  · exact read

/-! ## Flows with a valid header -/

/-- A flow with a valid header loads exactly when no collection holds itself
where references are replaced, and each value under its steps is kept after they
are replaced. It then has one step for each value, in order, and a step is
malformed only where its value describes none. A flow from JSON with a valid
header always loads. -/
theorem ofValue_keeps (source : String)
    (header : Header (substituteInEntries environment entries) name
      baseUrl description)
    (listed : Value.find? entries "steps" = some (.list values)) :
    (∀ value, (∃ step, Step.read value = .ok step) ↔ Step.Keepable value) ∧
      ((∃ flow, ofValue environment source (.dict entries) = .ok flow) ↔
        anyEndlessEntry entries = false ∧
          ∀ value ∈ values, Step.Keepable (substituteIn environment value)) ∧
      (∀ flow, ofValue environment source (.dict entries) = .ok flow →
        flow.name = name ∧ flow.baseUrl = baseUrl ∧
        flow.description = description ∧
        List.Forall₂
          (fun value step => Step.Becomes (substituteIn environment value) step)
          values flow.steps) ∧
      ∀ text members, Json.read text = .ok (.object members) →
        entries = Json.toEntries members →
        ∃ flow, ofValue environment source (.dict entries) = .ok flow := by
  have loads : (∃ flow, ofValue environment source (.dict entries) = .ok flow) ↔
      anyEndlessEntry entries = false ∧
        ∀ value ∈ values, Step.Keepable (substituteIn environment value) := by
    constructor
    · rintro ⟨flow, read⟩
      obtain ⟨finite, _, values', listed', steps⟩ := ofValue_eq_ok.mp read
      obtain rfl := Value.list.inj (Option.some.inj (listed.symm.trans listed'))
      exact ⟨finite, fun value member =>
        Step.exists_read_iff.mp (exists_forall₂_iff.mp ⟨_, steps⟩ value member)⟩
    · rintro ⟨finite, kept⟩
      obtain ⟨steps, read⟩ := exists_forall₂_iff.mpr fun value member =>
        Step.exists_read_iff.mpr (kept value member)
      exact ⟨⟨name, baseUrl, description, steps⟩,
        ofValue_eq_ok.mpr ⟨finite, header, values, listed, read⟩⟩
  refine ⟨fun value => Step.exists_read_iff, loads, fun flow read => ?_, ?_⟩
  · obtain ⟨_, own, values', listed', steps⟩ := ofValue_eq_ok.mp read
    obtain rfl := Value.list.inj (Option.some.inj (listed.symm.trans listed'))
    refine ⟨Except.ok.inj (own.name.symm.trans header.name),
      Except.ok.inj (own.baseUrl.symm.trans header.baseUrl),
      Except.ok.inj (own.description.symm.trans header.description), ?_⟩
    exact steps.imp fun _ _ made => (Step.becomes_of_read made).1
  · rintro text members decoded rfl
    exact loads.mpr ⟨anyEndlessEntry_toEntries members,
      keepable_of_read decoded listed⟩

/-- A click on a place that the environment names, and a bare number. -/
private def mixed : List Value :=
  [.dict [(.text "click", .text "$\x7bBOX\x7d")], .int 7]

/-- The click is a step, and the number stays in its place as a malformed
one. -/
theorem ofValue_keeps_mixed :
    let entries : List (Value × Value) :=
      [(.text "name", .text " Mixed"), (.text "steps", .list mixed)]
    let environment : Environment := ⟨[("BOX", "#b")]⟩
    Header (substituteInEntries environment entries) "Mixed" none none ∧
      ∃ flow, ofValue environment "mixed.yaml" (.dict entries) = .ok flow ∧
        flow.name = "Mixed" ∧
        List.Forall₂ (fun value step =>
            Step.Becomes (substituteIn environment value) step)
          mixed flow.steps := by
  intro entries environment
  have header :
      Header (substituteInEntries environment entries) "Mixed" none none :=
    ⟨by decide +kernel, by decide +kernel, by decide +kernel⟩
  have listed : Value.find? entries "steps" = some (.list mixed) := rfl
  obtain ⟨_, loads, steps, _⟩ := ofValue_keeps "mixed.yaml" header listed
  have click :
      Step.Keepable
        (substituteIn environment
          (.dict [(.text "click", .text "$\x7bBOX\x7d")])) :=
    .quoted (List.forall_mem_singleton.mpr ⟨"click", rfl⟩)
      (.dict (List.forall_mem_singleton.mpr (.text _))
        (List.forall_mem_singleton.mpr (.text _)))
  have number : Step.Keepable (.int 7) :=
    .other (fun _ same => by cases same) (.int (by decide))
  obtain ⟨flow, read⟩ :=
    loads.mpr
      ⟨rfl, List.forall_mem_cons.mpr
        ⟨click, List.forall_mem_singleton.mpr number⟩⟩
  obtain ⟨name, _, _, each⟩ := steps flow read
  exact ⟨header, flow, read, name, each⟩

/-- A step with a number as its key, behind a good one. -/
private def oddText : String := "name: X\nsteps:\n- click: '#a'\n- 1: x\n"

private def oddEntries : List (Value × Value) :=
  [(.text "name", .text "X"),
    (.text "steps",
      .list [.dict [(.text "click", .text "#a")], .dict [(.int 1, .text "x")]])]

private def oddTokens : List Yaml.Token :=
  [.blockMappingStart, .key, .scalar "name" true, .value, .scalar "X" true,
    .key, .scalar "steps" true, .value, .blockEntry, .blockMappingStart, .key,
    .scalar "click" true, .value, .scalar "#a" false, .blockEnd, .blockEntry,
    .blockMappingStart, .key, .scalar "1" true, .value, .scalar "x" true,
    .blockEnd, .blockEnd, .streamEnd]

private def oddNodes : Array Yaml.Node :=
  #[.mapping .mapping [(1, 2), (3, 4)], .scalar .text "name", .scalar .text "X",
    .scalar .text "steps", .sequence .sequence [5, 8],
    .mapping .mapping [(6, 7)], .scalar .text "click", .scalar .text "#a",
    .mapping .mapping [(9, 10)], .scalar .int "1", .scalar .text "x"]

private theorem documents_odd :
    Yaml.documents oddText = .ok [.dict oddEntries] := by
  let handles := [("!", "!"), ("!!", "tag:yaml.org,2002:")]
  have tokens : Yaml.tokens oddText = (oddTokens, .malformed) := by
    decide +kernel
  have first :
      (Yaml.Parse.document true).run ⟨oddTokens, .malformed, [], [], #[]⟩ =
      .ok (some 0, ⟨oddTokens.drop 23, .malformed, handles, [], oddNodes⟩) := by
    with_unfolding_all rfl
  have second : (Yaml.Parse.document false).run
        ⟨oddTokens.drop 23, .malformed, handles, [], oddNodes⟩ =
      .ok (none, ⟨[.streamEnd], .malformed, handles, [], #[]⟩) := by
    with_unfolding_all rfl
  have value : Yaml.valueOf oddNodes 0 = .ok (.dict oddEntries) := by
    with_unfolding_all rfl
  rw [Yaml.documents, tokens]
  dsimp only
  rw [Yaml.documentsFrom_next first value,
    show oddTokens.length = 23 + 1 from rfl, Yaml.documentsFrom_end second]
  rfl

/-- A mapping with a number as its key gives no step at all, and the flow of the
file does not load. -/
theorem ofValue_refuses_odd_key :
    Yaml.documents oddText = .ok [.dict oddEntries] ∧
      Header (substituteInEntries ⟨[]⟩ oddEntries) "X" none none ∧
      Step.read (.dict [(.int 1, .text "x")]) =
        .error (.keys [⟨["raw", "1", "[key]"], .text⟩]) ∧
      ofValue ⟨[]⟩ "f.yaml" (.dict oddEntries) =
        .error (.invalid "f.yaml" [⟨["steps", "raw", "1", "[key]"], .text⟩]) :=
  ⟨documents_odd, ⟨by decide +kernel, by decide +kernel, by decide +kernel⟩,
    by decide +kernel, by decide +kernel⟩

end Flow

end PageFlow
