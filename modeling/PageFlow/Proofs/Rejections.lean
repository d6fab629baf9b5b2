import PageFlow.Proofs.Building
import PageFlow.Proofs.Equality
import PageFlow.Proofs.Keeping
import PageFlow.Proofs.Loading

/-!
# Faults of flow files

A flow file that is there but cannot be loaded ends its loading with a value
error, as the program expects. The faults that are none have a reason in the
stream of YAML documents: one that the stream itself has, a step that cannot be
quoted since a key in it has no JSON form, or a document that holds itself.
-/

namespace PageFlow

open PageFlow.Reference

/-! ## Keys without a JSON form -/

namespace Value

/-- A mapping inside a value, at any depth, has a key that no JSON object can
have. -/
inductive HoldsOddKey (kind : String) : Value → Prop where
  | key {entries : List (Value × Value)} {entry : Value × Value} :
      entry ∈ entries →
      entry.1.keyName? = .error (.key kind) → HoldsOddKey kind (.dict entries)
  | value {entries : List (Value × Value)} {entry : Value × Value} :
      entry ∈ entries →
      HoldsOddKey kind entry.2 → HoldsOddKey kind (.dict entries)
  | item {items : List Value} {item : Value} :
      item ∈ items → HoldsOddKey kind item →
      HoldsOddKey kind (.list items)
  | member {items : List Value} {item : Value} :
      item ∈ items → HoldsOddKey kind item →
      HoldsOddKey kind (.set items)
  | first {first second : Value} : HoldsOddKey kind first →
    HoldsOddKey kind (.pair first second)
  | second {first second : Value} : HoldsOddKey kind second →
    HoldsOddKey kind (.pair first second)

variable {kind : String}

mutual

theorem holdsOddKey_of_toJson :
    ∀ {value : Value}, toJson? value = .error (.key kind) →
      HoldsOddKey kind value
  | .int n, failed => by
      rw [toJson?] at failed
      split at failed <;> cases failed
  | .list items, failed => by
      rw [toJson?] at failed
      obtain inside | ⟨_, _, failed⟩ := or_of_bind_eq_error failed
      · obtain ⟨item, member, odd⟩ := holdsOddKey_of_items inside
        exact .item member odd
      · cases failed
  | .set items, failed => by
      rw [toJson?] at failed
      obtain inside | ⟨_, _, failed⟩ := or_of_bind_eq_error failed
      · obtain ⟨item, member, odd⟩ := holdsOddKey_of_items inside
        exact .member member odd
      · cases failed
  | .pair first second, failed => by
      rw [toJson?] at failed
      obtain inside | ⟨_, _, failed⟩ := or_of_bind_eq_error failed
      · exact .first (holdsOddKey_of_toJson inside)
      · obtain inside | ⟨_, _, failed⟩ := or_of_bind_eq_error failed
        · exact .second (holdsOddKey_of_toJson inside)
        · cases failed
  | .dict entries, failed => by
      rw [toJson?] at failed
      obtain inside | ⟨_, _, failed⟩ := or_of_bind_eq_error failed
      · obtain ⟨entry, member, odd | odd⟩ := holdsOddKey_of_entries inside
        · exact .key member odd
        · exact .value member odd
      · cases failed
  | .null, failed | .bool _, failed | .float _, failed | .text _,
    failed | .bytes _, failed
  | .date _, failed | .time _, failed | .knot _, failed => by
      rw [toJson?] at failed
      cases failed

theorem holdsOddKey_of_items :
    ∀ {items : List Value}, itemsToJson? items = .error (.key kind) →
    ∃ item ∈ items, HoldsOddKey kind item
  | [], failed => by cases failed
  | first :: rest, failed => by
      rw [itemsToJson?] at failed
      obtain inside | ⟨_, _, failed⟩ := or_of_bind_eq_error failed
      · exact ⟨first, List.mem_cons_self, holdsOddKey_of_toJson inside⟩
      · obtain inside | ⟨_, _, failed⟩ := or_of_bind_eq_error failed
        · obtain ⟨item, member, odd⟩ := holdsOddKey_of_items inside
          exact ⟨item, List.mem_cons_of_mem _ member, odd⟩
        · cases failed

theorem holdsOddKey_of_entries : ∀ {entries : List (Value × Value)},
    entriesToJson? entries = .error (.key kind) →
      ∃ entry ∈ entries,
        entry.1.keyName? = .error (.key kind) ∨ HoldsOddKey kind entry.2
  | [], failed => by cases failed
  | (key, value) :: rest, failed => by
      rw [entriesToJson?] at failed
      obtain odd | ⟨_, _, failed⟩ := or_of_bind_eq_error failed
      · exact ⟨_, List.mem_cons_self, .inl odd⟩
      · obtain inside | ⟨_, _, failed⟩ := or_of_bind_eq_error failed
        · exact ⟨_, List.mem_cons_self, .inr (holdsOddKey_of_toJson inside)⟩
        · obtain inside | ⟨_, _, failed⟩ := or_of_bind_eq_error failed
          · obtain ⟨entry, member, odd⟩ := holdsOddKey_of_entries inside
            exact ⟨entry, List.mem_cons_of_mem _ member, odd⟩
          · cases failed

end

theorem not_holdsOddKey_of_quotable {value : Value}
    (quotable : value.Quotable) : ¬ HoldsOddKey kind value := by
  induction quotable with
  | list _ items =>
      rintro (_ | _ | ⟨member, odd⟩)
      exact items _ member odd
  | set _ items =>
      rintro (_ | _ | _ | ⟨member, odd⟩)
      exact items _ member odd
  | pair _ _ first second =>
      rintro (_ | _ | _ | _ | odd | odd)
      · exact first odd
      · exact second odd
  | dict keys _ values =>
      rintro (⟨member, odd⟩ | ⟨member, odd⟩)
      · obtain ⟨name, named⟩ := exists_keyName_iff.mpr (keys _ member)
        rw [named] at odd
        cases odd
      · exact values _ member odd
  | _ => nofun

theorem holdsOddKey_of_substituteIn {environment : Environment} {value : Value}
    (odd : HoldsOddKey kind (substituteIn environment value)) :
    HoldsOddKey kind value := by
  generalize replaced : substituteIn environment value = result at odd
  induction odd generalizing value with
  | key member odd =>
      cases value with
      | dict entries =>
          rw [substituteIn, substituteInEntries_eq_map] at replaced
          cases replaced
          obtain ⟨original, among, rfl⟩ := List.mem_map.mp member
          exact .key among odd
      | _ => cases replaced
  | value member _ induction =>
      cases value with
      | dict entries =>
          rw [substituteIn, substituteInEntries_eq_map] at replaced
          cases replaced
          obtain ⟨original, among, rfl⟩ := List.mem_map.mp member
          exact .value among (induction rfl)
      | _ => cases replaced
  | item member _ induction =>
      cases value with
      | list items =>
          rw [substituteIn, substituteInAll_eq_map] at replaced
          cases replaced
          obtain ⟨original, among, rfl⟩ := List.mem_map.mp member
          exact .item among (induction rfl)
      | _ => cases replaced
  | member among odd _ =>
      cases value with
      | set items =>
          cases replaced
          exact .member among odd
      | _ => cases replaced
  | first odd _ =>
      cases value with
      | pair =>
          cases replaced
          exact .first odd
      | _ => cases replaced
  | second odd _ =>
      cases value with
      | pair =>
          cases replaced
          exact .second odd
      | _ => cases replaced

theorem mem_of_find? {entries : List (Value × Value)} {name : String}
    {value : Value} (found : find? entries name = some value) :
    (.text name, value) ∈ entries := by
  induction entries with
  | nil => cases found
  | cons entry entries induction =>
      unfold find? at found
      split at found
      · cases ‹_ = _›
      · rename_i same
        cases same
        split at found
        · rename_i equal
          cases found
          exact equal ▸ List.mem_cons_self
        · exact List.mem_cons_of_mem _ (induction found)
      · rename_i same
        cases same
        exact List.mem_cons_of_mem _ (induction found)

end Value

/-! ## Steps and flows -/

theorem Step.toJson_of_malformed {opening : String} {quoted : Value}
    {raw : List (Value × Value)} {fault : Value.JsonFault}
    (failed : malformed? opening quoted raw = .error (.unquotable fault)) :
    quoted.toJson? = .error fault := by
  unfold malformed? at failed
  split at failed
  · rename_i unwritten
    cases failed
    obtain written | ⟨_, _, unwritten⟩ := or_of_bind_eq_error unwritten
    · exact written
    · cases unwritten
  · split at failed <;> cases failed

theorem Step.toJson_of_read {value : Value} {fault : Value.JsonFault}
    (failed : Step.read value = .error (.unquotable fault)) :
    value.toJson? = .error fault := by
  unfold Step.read at failed
  split at failed
  · unfold readObject at failed
    split at failed
    · exact toJson_of_malformed failed
    · split at failed
      · exact toJson_of_malformed failed
      · split at failed
        · cases failed
        · exact toJson_of_malformed failed
  · exact toJson_of_malformed failed

namespace Flow

variable {environment : Environment}

theorem exists_of_readSteps {steps : Option Value} {fault : Value.JsonFault}
    (failed : readSteps steps = .error fault) :
    ∃ values value kind,
      steps = some (.list values) ∧ value ∈ values ∧ fault = .key kind ∧
      Step.read value = .error (.unquotable (.key kind)) := by
  unfold readSteps at failed
  split at failed
  · cases failed
  · rename_i values
    split at failed
    · cases failed
    · rename_i kind unread
      cases failed
      rw [readStepList_eq_mapM] at unread
      obtain ⟨value, member, unread⟩ := exists_of_mapM_eq_error unread
      exact ⟨values, value, kind, rfl, member, rfl, unread⟩
    · cases failed
    · cases failed
  · cases failed

/-- Of a flow that cannot be quoted one step has a key without a JSON form and
cannot be kept. -/
theorem exists_of_unquotable {source : String} {document : Value}
    {fault : Value.JsonFault}
    (failed : ofValue environment source document =
      .error (.unquotable fault)) :
    ∃ entries values value kind, document = .dict entries ∧
      Value.find? entries "steps" = some (.list values) ∧ value ∈ values ∧
      fault = .key kind ∧
      value.HoldsOddKey kind ∧
        ¬ Step.Keepable (substituteIn environment value) := by
  cases document with
  | dict entries =>
      unfold ofValue at failed
      dsimp only at failed
      split at failed
      · cases failed
      unfold ofEntries at failed
      dsimp only at failed
      rw [find?_substituteInEntries] at failed
      split at failed
      · rename_i unread
        cases failed
        obtain ⟨replaced, value, kind, found, member, rfl, unread⟩ :=
          exists_of_readSteps unread
        obtain ⟨original, listed, same⟩ := Option.map_eq_some_iff.mp found
        cases original with
        | list values =>
            rw [substituteIn, substituteInAll_eq_map] at same
            cases same
            obtain ⟨value, among, rfl⟩ := List.mem_map.mp member
            refine ⟨entries, values, value, kind, rfl, listed, among, rfl, ?_,
              fun keepable => ?_⟩
            · exact Value.holdsOddKey_of_substituteIn
                (Value.holdsOddKey_of_toJson (Step.toJson_of_read unread))
            · obtain ⟨step, read⟩ := Step.exists_read_iff.mpr keepable
              rw [unread] at read
              cases read
        | _ => cases same
      · split at failed <;> cases failed
  | _ => cases failed

/-- Replacing references does not come to an end in a mapping that holds
itself. -/
theorem exists_of_endless {source : String} {document : Value}
    (failed : ofValue environment source document = .error .endless) :
    ∃ entries, document = .dict entries ∧ isEndless document = true := by
  cases document with
  | dict entries =>
      unfold ofValue at failed
      dsimp only at failed
      split at failed
      · exact ⟨entries, rfl, ‹_›⟩
      unfold ofEntries at failed
      dsimp only at failed
      split at failed
      · cases failed
      · split at failed <;> cases failed
  | _ => cases failed

end Flow

/-! ## Faults of files -/

/-- The fault is a value error. The faults of a file system are errors of their
own, except for a name that no file can have. -/
def LoadFault.isValueError : LoadFault → Bool
  | .missing _ => false
  | .file fault => fault.cause = .nullByte
  | .yaml _ fault => !fault.isStray
  | .flow (.unquotable (.key _)) | .flow .endless => false
  | .encoding _ | .json .. | .empty _ | .flow _ => true

namespace Flow

variable {files : FileSystem} {environment : Environment} {path : Path}
  {data : List UInt8}

/-- What a flow file holds where loading it ends with a fault that is no value
error. -/
inductive Escapes (files : FileSystem) (environment : Environment)
    (path : Path) : LoadFault → Prop where
  | stream {text : String} {fault : Yaml.Fault} : ¬ isJsonFile path →
      fileText files path = .ok text → Yaml.Strays text fault →
      Escapes files environment path (.yaml path.text fault)
  | step {documents values : List Value} {entries : List (Value × Value)}
      {value : Value} {kind : String} :
      ¬ isJsonFile path → HoldsDocuments files path documents →
      .dict entries ∈ documents →
      Value.find? entries "steps" = some (.list values) → value ∈ values →
      value.HoldsOddKey kind →
      ¬ Step.Keepable (substituteIn environment value) →
      Escapes files environment path (.flow (.unquotable (.key kind)))
  | loop {text : String} {documents : List Value}
      {entries : List (Value × Value)} :
      ¬ isJsonFile path → fileText files path = .ok text →
      Yaml.documents text = .ok documents →
      .dict entries ∈ documents → isEndless (.dict entries) = true →
      Yaml.Looped (Yaml.tokens text).1 →
        Escapes files environment path (.flow .endless)

theorem Escapes.isValueError {fault : LoadFault}
    (escapes : Escapes files environment path fault) :
    fault.isValueError = false := by
  cases escapes with
  | stream _ _ strays => rw [LoadFault.isValueError, strays.isStray]; rfl
  | step | loop => rfl

theorem isExpected_yaml {name : String} {fault : Yaml.Fault} :
    (LoadFault.yaml name fault).isExpected = !fault.isStray := by
  cases fault <;> rfl

theorem Escapes.isExpected {fault : LoadFault}
    (escapes : Escapes files environment path fault) :
    fault.isExpected = false := by
  cases escapes with
  | stream _ _ strays => rw [isExpected_yaml, strays.isStray]; rfl
  | step | loop => rfl

/-- A value error that is also one of the faults that the search for sources
expects of a file. -/
def Caught (fault : LoadFault) : Prop :=
  fault.isValueError = true ∧ fault.isExpected = true

theorem not_json_of_holdsOddKey {documents values : List Value}
    {entries : List (Value × Value)} {value : Value} {kind : String}
    (holds : HoldsDocuments files path documents)
    (document : .dict entries ∈ documents)
    (listed : Value.find? entries "steps" = some (.list values))
    (member : value ∈ values) (odd : value.HoldsOddKey kind) :
    ¬ isJsonFile path := by
  intro json
  obtain ⟨_, text, _, writes⟩ := holds
  cases writes with
  | json _ read =>
      rw [List.mem_singleton] at document
      have quotable := (Json.writable_of_read read).quotable
      rw [← document] at quotable
      exact Value.not_holdsOddKey_of_quotable quotable
        (.value (Value.mem_of_find? listed) (.item member odd))
  | yaml other _ => exact other json

/-- A file that is there is read, and its documents are those that its text
writes. -/
theorem readDocuments_or (regular : files.find path = .ok (.file data))
    {fault : LoadFault} (failed : readDocuments files path = .error fault) :
    Caught fault ∨ Escapes files environment path fault := by
  have there : files.exists? path = .ok true := by
    rw [FileSystem.exists?, FileSystem.look, regular]
    rfl
  unfold readDocuments at failed
  rw [there] at failed
  dsimp only at failed
  split at failed
  · rename_i unread
    cases failed
    unfold fileText at unread
    rw [FileSystem.read, regular] at unread
    dsimp only at unread
    split at unread
    · cases unread
      exact .inl ⟨rfl, rfl⟩
    · cases unread
  · rename_i text read
    unfold documentsOf at failed
    split at failed
    · split at failed
      · cases failed
      · cases failed
        exact .inl ⟨rfl, rfl⟩
    · rename_i yaml
      split at failed
      · cases failed
      · rename_i fault found
        cases failed
        cases stray : fault.isStray with
        | false =>
            exact .inl ⟨by rw [LoadFault.isValueError, stray]; rfl,
              by rw [isExpected_yaml, stray]; rfl⟩
        | true =>
            exact .inr
              (.stream yaml read (Yaml.strays_of_documents found stray))

theorem ofValue_or {values : List Value} {document : Value} {source : String}
    {problem : FlowFault} (read : readDocuments files path = .ok values)
    (member : document ∈ values)
    (failed : ofValue environment source document = .error problem) :
    Caught (.flow problem) ∨
      Escapes files environment path (.flow problem) := by
  cases problem with
  | notMapping | invalid => exact .inl ⟨rfl, rfl⟩
  | unquotable fault =>
      obtain ⟨entries, steps, value, kind, rfl, listed, among,
          rfl, odd, lost⟩ :=
        exists_of_unquotable failed
      obtain ⟨documents, holds, rfl | rfl⟩ :=
        holdsDocuments_of_readDocuments read
      · have document := List.mem_of_mem_filter member
        exact .inr
          (.step (not_json_of_holdsOddKey holds document listed among odd) holds
            document listed among odd lost)
      · cases List.mem_singleton.mp member
  | endless =>
      obtain ⟨entries, rfl, ends⟩ := exists_of_endless failed
      obtain ⟨documents, ⟨_, text, there, writes⟩, rfl | rfl⟩ :=
        holdsDocuments_of_readDocuments read
      · have document := List.mem_of_mem_filter member
        cases writes with
        | json _ parsed =>
            rw [List.mem_singleton] at document
            rw [document, isEndless_toValue] at ends
            cases ends
        | yaml yaml parsed =>
            exact .inr (.loop yaml there parsed document ends
              (Yaml.looped_of_documents parsed document ends))
      · cases List.mem_singleton.mp member

theorem loadAll_or (regular : files.find path = .ok (.file data))
    {fault : LoadFault}
    (failed : loadAll files environment path = .error fault) :
    Caught fault ∨ Escapes files environment path fault := by
  cases read : readDocuments files path with
  | error cause =>
      rw [loadAll, read] at failed
      cases failed
      exact readDocuments_or regular read
  | ok values =>
      cases values with
      | nil =>
          rw [loadAll, read] at failed
          cases failed
          exact .inl ⟨rfl, rfl⟩
      | cons first later =>
          rw [loadAll_of_readDocuments read] at failed
          cases problem : ofDocuments environment path 1 (first :: later) with
          | ok flows =>
              rw [problem] at failed
              cases failed
          | error cause =>
              rw [problem] at failed
              cases failed
              obtain ⟨earlier, faulty, rest, split, _, invalid⟩ :=
                exists_of_ofDocuments problem
              exact ofValue_or read
                (split ▸ List.mem_append_right _ List.mem_cons_self) invalid

/-- Of a file that is there, one flow or all flows are loaded, or there is a
value error, with three exceptions. A stream of YAML documents may hold a tag
for a scalar that has nothing of the form of its kind, or one that makes a date
of a mapping, a word for a truth value with a line break behind it that a lone
exclamation mark leaves its kind, a number with too many parts in base sixty,
mappings that stand for texts and lead back to themselves, or an escape for too
large a number. A value that is no step may hold a key that no JSON object can
have. And a document may hold itself. These faults, which JSON files never have,
are also the ones that the search for the sources of a file lets through. -/
theorem load_faults (environment : Environment)
    (regular : files.find path = .ok (.file data)) :
    (∀ fault, load files environment path = .error fault ∨
        loadAll files environment path = .error fault →
      (fault.isValueError = false ↔ Escapes files environment path fault)) ∧
    (isJsonFile path → ∀ fault, ¬ Escapes files environment path fault) ∧
    ∀ fault, CommandLine.sourcesOfFile files environment path = .error fault ↔
      loadAll files environment path = .error fault ∧
        Escapes files environment path fault := by
  refine ⟨fun fault failed => ⟨fun other => ?_, Escapes.isValueError⟩,
    fun json fault escapes => ?_,
    fun fault => ⟨fun failed => ?_, fun ⟨failed, escapes⟩ => ?_⟩⟩
  · -- A fault of the first flow is one of all flows, so these are the only
    -- case.
    have all : loadAll files environment path = .error fault :=
      failed.elim loadAll_of_load_error id
    exact (loadAll_or regular all).resolve_left fun caught => by
      rw [caught.1] at other
      cases other
  · cases escapes with
    | stream yaml => exact yaml json
    | step yaml => exact yaml json
    | loop yaml => exact yaml json
  · unfold CommandLine.sourcesOfFile at failed
    split at failed
    · cases failed
    · rename_i cause refused
      split at failed
      · cases failed
      · rename_i unexpected
        cases failed
        exact ⟨refused, (loadAll_or regular refused).resolve_left fun caught =>
          unexpected caught.2⟩
  · rw [CommandLine.sourcesOfFile, failed]
    dsimp only
    rw [escapes.isExpected]
    rfl

/-- An object that ends before its first name. -/
private def brokenFiles : FileSystem := ⟨[(["f.json"], .file [123])], []⟩

private def brokenPath : Path := ⟨.root, ["f.json"]⟩

/-- A JSON file that is broken off is told with a value error, and the search
for sources goes on. -/
theorem load_faults_broken :
    brokenFiles.find brokenPath = .ok (.file [123]) ∧
      ∃ fault, load brokenFiles ⟨[]⟩ brokenPath = .error fault ∧
        fault.isValueError = true ∧
        ∀ other, CommandLine.sourcesOfFile brokenFiles ⟨[]⟩ brokenPath ≠
          .error other := by
  have place : brokenFiles.locate brokenPath = .ok ["f.json"] :=
    eq_ok_of_toOption (by decide +kernel)
  have regular : brokenFiles.find brokenPath = .ok (.file [123]) := by
    rw [FileSystem.find, place]
    rfl
  have json : isJsonFile brokenPath := by decide +kernel
  have present : brokenFiles.exists? brokenPath = .ok true :=
    eq_ok_of_toOption (by decide +kernel)
  have text : fileText brokenFiles brokenPath = .ok "\x7b" :=
    eq_ok_of_toOption (by decide +kernel)
  obtain ⟨fault, refused⟩ : ∃ fault,
      load brokenFiles ⟨[]⟩ brokenPath = .error fault := by
    rw [load, readDocuments, present, text]
    dsimp only
    rw [documentsOf, if_pos json,
      show Json.read "\x7b" = .error (.at .name 1 1 2) from rfl]
    exact ⟨_, rfl⟩
  obtain ⟨classes, sound, sources⟩ := load_faults ⟨[]⟩ regular
  refine ⟨regular, fault, refused, ?_,
    fun other failed => sound json other ((sources other).mp failed).2⟩
  cases told : fault.isValueError with
  | true => rfl
  | false =>
      exact absurd ((classes fault (.inl refused)).mp told) (sound json fault)

/-- A flow with an integer of no digits. -/
private def taggedText : String := "name: X\nretries: !!int ''\nsteps: []\n"

private def taggedBytes : List UInt8 :=
  [110, 97, 109, 101, 58, 32, 88, 10, 114, 101, 116, 114, 105, 101, 115, 58, 32,
    33, 33, 105, 110, 116, 32, 39, 39, 10, 115, 116, 101, 112, 115, 58,
    32, 91, 93, 10]

private def taggedTokens : List Yaml.Token :=
  [.blockMappingStart, .key, .scalar "name" true, .value, .scalar "X" true,
    .key, .scalar "retries" true, .value, .tag (some "!!") "int",
    .scalar "" false, .key, .scalar "steps" true, .value, .flowSequenceStart,
    .flowSequenceEnd, .blockEnd, .streamEnd]

private def taggedNodes : Array Yaml.Node :=
  #[.mapping .mapping [(1, 2), (3, 4), (5, 6)], .scalar .text "name",
    .scalar .text "X", .scalar .text "retries", .scalar .int "",
    .scalar .text "steps", .sequence .sequence []]

private def taggedFiles : FileSystem := ⟨[(["f.yaml"], .file taggedBytes)], []⟩

private def taggedPath : Path := ⟨.root, ["f.yaml"]⟩

/-- A file with a tag that does not fit ends its loading, and the search for
sources, with a fault that is no value error. -/
theorem load_fails_tagged :
    taggedFiles.find taggedPath = .ok (.file taggedBytes) ∧
      load taggedFiles ⟨[]⟩ taggedPath = .error (.yaml "/f.yaml" .emptyNumber) ∧
      (LoadFault.yaml "/f.yaml" .emptyNumber).isValueError = false ∧
      CommandLine.sourcesOfFile taggedFiles ⟨[]⟩ taggedPath =
        .error (.yaml "/f.yaml" .emptyNumber) := by
  have place : taggedFiles.locate taggedPath = .ok ["f.yaml"] :=
    eq_ok_of_toOption (by decide +kernel)
  have regular : taggedFiles.find taggedPath = .ok (.file taggedBytes) := by
    rw [FileSystem.find, place]
    rfl
  have yaml : ¬ isJsonFile taggedPath := by decide +kernel
  have present : taggedFiles.exists? taggedPath = .ok true :=
    eq_ok_of_toOption (by decide +kernel)
  have text : fileText taggedFiles taggedPath = .ok taggedText :=
    eq_ok_of_toOption (by decide +kernel)
  have tokens : Yaml.tokens taggedText = (taggedTokens, .malformed) := by
    decide +kernel
  have first :
      (Yaml.Parse.document true).run ⟨taggedTokens, .malformed, [], [], #[]⟩ =
      .ok (some 0, ⟨[.streamEnd], .malformed,
        [("!", "!"), ("!!", "tag:yaml.org,2002:")], [], taggedNodes⟩) := by
    with_unfolding_all rfl
  have unfit : Yaml.valueOf taggedNodes 0 = .error .emptyNumber := by
    with_unfolding_all rfl
  have documents : Yaml.documents taggedText = .error .emptyNumber := by
    rw [Yaml.documents, tokens]
    dsimp only
    rw [Yaml.documentsFrom, first]
    dsimp only
    rw [unfit]
    rfl
  have read :
      readDocuments taggedFiles taggedPath =
        .error (.yaml "/f.yaml" .emptyNumber) := by
    rw [readDocuments, present, text]
    dsimp only
    rw [documentsOf, if_neg yaml, documents]
    rfl
  refine ⟨regular, by rw [load, read], rfl, ?_⟩
  rw [CommandLine.sourcesOfFile, loadAll, read]
  rfl

end Flow

end PageFlow
