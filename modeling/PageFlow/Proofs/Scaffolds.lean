import PageFlow.Flow.Discovery
import PageFlow.Proofs.FileNames
import PageFlow.Proofs.Keeping
import PageFlow.Proofs.Loading
import PageFlow.Proofs.Malformed
import PageFlow.Proofs.Substitution
import PageFlow.Proofs.WrittenFiles

/-!
# New flow files

A flow file that was made of a template is a good one: it is found in its
directory, and it holds the one flow that the template describes, with the name
and the base address that were asked for.
-/

namespace PageFlow

open PageFlow.Text PageFlow.Json

/-! ## Texts without references -/

namespace Reference

variable {environment : Environment} {s : String}

/-- No reference in a text is to a name that has a text. -/
def Inert (environment : Environment) (s : String) : Prop :=
  ∀ start name, OccursAt s.toList start name →
    environment.find? (String.ofList name) = none

theorem inert_of_notMem (free : '$' ∉ s.toList) : Inert environment s := by
  rintro start name ⟨-, begins⟩
  exact absurd (List.mem_of_mem_drop (begins.mem List.mem_cons_self)) free

theorem Inert.substitute (inert : Inert environment s) :
    substitute environment s = s := by
  obtain ⟨parts, count, gives, same⟩ := exists_parts_substitute environment s
  have own : parts = s.toList.map fun c => [c] := by
    apply List.ext_getElem?
    intro place
    rw [List.getElem?_map]
    cases found : s.toList[place]? with
    | none =>
        rw [List.getElem?_eq_none_iff] at found
        exact List.getElem?_eq_none (count ▸ found)
    | some c =>
        exact (gives place [c]).mpr
          (.itself (fun start name covers => inert start name covers.1) found)
  rw [same, own, ← List.flatMap_def, List.flatMap_singleton',
    String.ofList_toList]

theorem inert_firstText {base : Option String}
    (first : ∀ url ∈ base, Inert environment url)
    (second : Inert environment s) :
    Inert environment (firstText [base, some s]) := by
  have last : firstText [some s] = s := by simp +contextual [firstText]
  cases base with
  | none => exact last.symm ▸ second
  | some url =>
      rw [firstText]
      split
      · exact last.symm ▸ second
      · exact first url rfl

end Reference

/-! ## Documents of templates -/

namespace Template

variable {environment : Environment} {template : Template} {document : Json}
  {steps : List Json}

/-- A text without a dollar, or a short integer. -/
def isFixed : Json → Bool
  | .text s => !s.toList.contains '$'
  | .int n => decide (HasFewDigits digitLimit n)
  | _ => false

/-- An object with distinct names whose members stay as they are in every
environment. -/
def isStill : Json → Bool
  | .object members =>
    decide (members.map Prod.fst).Nodup && members.all fun member =>
      isFixed member.2
  | _ => false

/-- An object describes a step. -/
def isSound (document : Json) : Bool :=
  match Step.read document.toValue with
  | .ok step => !step.isMalformed
  | .error _ => false

theorem plain_of_isFixed (fixed : isFixed document) :
    Plain digitLimit document := by
  cases document with
  | text s => exact .text s
  | int n => exact .int (of_decide_eq_true fixed)
  | _ => cases fixed

theorem substituteIn_of_isFixed (fixed : isFixed document) :
    Reference.substituteIn environment document.toValue = document.toValue := by
  cases document with
  | text s =>
      have free : '$' ∉ s.toList := by simpa [isFixed] using fixed
      exact congrArg Value.text (Reference.inert_of_notMem free).substitute
  | int n => rfl
  | _ => cases fixed

theorem plain_of_isStill (still : isStill document) :
    Plain digitLimit document := by
  cases document with
  | object members =>
      simp only [isStill, Bool.and_eq_true, decide_eq_true_eq,
        List.all_eq_true] at still
      exact .object still.1 fun member among =>
        plain_of_isFixed (still.2 member among)
  | _ => cases still

theorem substituteIn_of_isStill (still : isStill document) :
    Reference.substituteIn environment document.toValue = document.toValue := by
  cases document with
  | object members =>
      simp only [isStill, Bool.and_eq_true, decide_eq_true_eq,
        List.all_eq_true] at still
      rw [Json.toValue, Reference.substituteIn,
        Reference.substituteInEntries_eq_map]
      refine congrArg Value.dict
        ((List.map_congr_left fun entry among => ?_).trans (List.map_id _))
      obtain ⟨member, inside, rfl⟩ := Json.mem_toEntries.mp among
      rw [substituteIn_of_isFixed (still.2 member inside)]
      rfl
  | _ => cases still

/-- The steps of all templates are sound, and mean the same in every
environment. -/
theorem steps_of_mem (environment : Environment) (member : template ∈ all) :
    ∃ title usual steps, template.members =
        [("name", .text title), ("baseUrl", .text usual),
          ("steps", .array steps)] ∧
      Reference.Inert environment usual ∧
        ∀ document ∈ steps, isStill document ∧ isSound document := by
  have checked (steps : List Json)
      (each : steps.all (fun step => isStill step && isSound step)) :
      ∀ document ∈ steps, isStill document ∧ isSound document :=
    fun document among =>
    Bool.and_eq_true_iff.mp (List.all_eq_true.mp each document among)
  simp only [all, List.mem_cons, List.not_mem_nil, or_false] at member
  rcases member with rfl | rfl | rfl
  all_goals
    exact ⟨_, _, _, rfl, Reference.inert_of_notMem (by decide),
      checked _ (by decide +kernel)⟩

variable {name url : String}

def scaffold (name url : String) (steps : List Json) : Json :=
  .object [("name", .text name), ("baseUrl", .text url),
    ("steps", .array steps)]

/-- The document for a new flow is that of a template, with the name and the
base address asked for. -/
theorem exists_of_find? {key : String} {baseUrl : Option String}
    (environment : Environment) (filled : name ≠ "")
    (found : find? key (some name) baseUrl = some document) :
    ∃ template ∈ all, template.key = key ∧ ∃ title usual steps,
      template.members = [("name", .text title), ("baseUrl", .text usual),
        ("steps", .array steps)] ∧
      Reference.Inert environment usual ∧
      (∀ step ∈ steps, isStill step ∧ isSound step) ∧
      document = scaffold name (firstText [baseUrl, some usual]) steps := by
  obtain ⟨template, chosen, rfl⟩ := Option.map_eq_some_iff.mp found
  have member := List.mem_of_find?_eq_some chosen
  have key := List.find?_some chosen
  obtain ⟨title, usual, steps, members, inert, sound⟩ :=
    steps_of_mem environment member
  refine ⟨template, member, eq_of_beq key, title, usual, steps, members,
    inert, sound, ?_⟩
  have named : name.isEmpty = false := by simpa using filled
  rw [members, override, named, scaffold]
  cases baseUrl with
  | none => simp [override, Json.insertMember, firstText]
  | some url =>
      by_cases none : url = ""
      · simp [override, Json.insertMember, firstText, none]
      · simp [override, Json.insertMember, firstText, none]

theorem plain_scaffold (still : ∀ step ∈ steps, isStill step) :
    Plain digitLimit (scaffold name url steps) := by
  have names : ["name", "baseUrl", "steps"].Nodup := by decide
  refine .object names ?_
  simp only [List.forall_mem_cons]
  exact ⟨.text _, .text _,
    .array fun step among => plain_of_isStill (still step among), by simp⟩

theorem readName_of_shown (shown : ∃ c ∈ name.toList, ¬ isBlank c) :
    Flow.readName (some (.text name)) = .ok (trim name) := by
  obtain ⟨c, member, visible⟩ := shown
  have filled : (trim name).isEmpty = false := by
    rw [String.isEmpty_eq_false_iff, trim, ne_eq, String.ofList_eq_empty_iff]
    exact List.ne_nil_of_mem ((mem_trimChars visible).mpr member)
  have text : Field.text (.text name) = .ok name := rfl
  rw [Flow.readName, text]
  dsimp only [bind, Except.bind]
  rw [filled]
  rfl

theorem find?_scaffold (key : String) :
    Value.find? (toEntries [("name", .text name), ("baseUrl", .text url),
      ("steps", .array steps)]) key =
      if "name" = key then some (.text name)
      else if "baseUrl" = key then some (.text url)
      else if "steps" = key then some (.list (toValues steps)) else none := by
  simp only [toEntries, Value.find?, toValue]

theorem exists_gives_scaffold (shown : ∃ c ∈ name.toList, ¬ isBlank c)
    (inertName : Reference.Inert environment name)
    (inertUrl : Reference.Inert environment url)
    (each : ∀ step ∈ steps, isStill step ∧ isSound step) :
    ∃ flow, Flow.Gives environment (scaffold name url steps).toValue flow ∧
      flow.name = trim name ∧ flow.baseUrl = some url ∧
      flow.description = none ∧
      List.Forall₂ (fun document step => Step.read document.toValue = .ok step)
        steps flow.steps ∧
      flow.malformedSteps = [] := by
  have sound : ∀ document ∈ steps, ∃ step,
      Step.read document.toValue = .ok step ∧
      step.isMalformed = false := by
    intro document among
    have checked := (each document among).2
    unfold isSound at checked
    split at checked
    · exact ⟨_, ‹_›, by simpa using checked⟩
    · cases checked
  obtain ⟨read, both⟩ := exists_forall₂_iff.mpr sound
  refine ⟨⟨trim name, some url, none, read⟩, ?_, rfl, rfl, rfl,
    both.imp fun _ _ found => found.1, ?_⟩
  · intro source
    have key : Flow.baseUrlKey (Reference.substituteInEntries environment
        (toEntries [("name", .text name), ("baseUrl", .text url),
            ("steps", .array steps)])) =
          "baseUrl" := by
      simp [Flow.baseUrlKey, Value.hasKey, Reference.find?_substituteInEntries,
        find?_scaffold]
    rw [scaffold, toValue, Flow.ofValue_eq_ok]
    refine ⟨Flow.anyEndlessEntry_toEntries _, ⟨?_, ?_, ?_⟩,
      toValues steps, ?_, ?_⟩
    · rw [Reference.find?_substituteInEntries, find?_scaffold, if_pos rfl]
      exact (congrArg (fun s => Flow.readName (some (.text s)))
        inertName.substitute).trans
        (readName_of_shown shown)
    · rw [key, Reference.find?_substituteInEntries, find?_scaffold,
        if_neg (by decide), if_pos rfl]
      exact congrArg (fun s => Except.ok (some s)) inertUrl.substitute
    · rw [Reference.find?_substituteInEntries, find?_scaffold]
      rfl
    · exact find?_scaffold "steps"
    · rw [toValues_eq_map, List.forall₂_map_left_iff]
      refine ((List.forall₂_and_left _ _).mpr ⟨fun _ among => among, both⟩).imp
        ?_
      rintro document step ⟨among, found, _⟩
      rwa [substituteIn_of_isStill (each document among).1]
  · refine Flow.malformedSteps_eq_nil fun step member => ?_
    obtain ⟨_, _, found⟩ := exists_of_forall₂ both.flip member
    exact found.2

/-! ## Names of new flow files -/

theorem stem_ne_nil (shown : ∃ c ∈ name.toList, ¬ isBlank c) :
    stem name ≠ [] := by
  obtain ⟨c, member, visible⟩ := shown
  exact foldBlanks_ne_nil
    (lowerChars_ne_nil
      (List.ne_nil_of_mem ((mem_trimChars visible).mpr member)))

theorem lower_suffix_fileName (shown : ∃ c ∈ name.toList, ¬ isBlank c)
    (base : Path) :
    lower (base.child (fileName name)).suffix = ".json" := by
  have last : (base.child (fileName name)).name = fileName name := by
    rw [Path.name, Path.child, List.getLast?_concat, Option.getD_some]
  have tail :
      (".json".toList.reverse ++ (stem name).reverse).takeWhile (· ≠ '.') =
      "json".toList.reverse := by simp
  have suffix : (base.child (fileName name)).suffix = ".json" := by
    rw [Path.suffix, last, toList_fileName, Path.suffixOf, List.reverse_append,
      tail, List.length_append]
    simp [stem_ne_nil shown]
  rw [suffix]
  decide +kernel

end Template

namespace FileSystem

variable {files : FileSystem} {directory : Path} {name : String} {place : Place}
  {data : List UInt8}

/-- A flow file directly in a directory is found, with or without the
directories below. -/
theorem mem_discover (stands : files.find directory = .ok .directory)
    (inside : name ≠ "..")
    (free : files.filePlace (directory.child name) = .ok place)
    (file : files.at? place = some (.file data))
    (flow : Flow.hasFlowSuffix (directory.child name)) (recursive : Bool) :
    ∃ found, Flow.discover files directory recursive = .ok found ∧
      directory.child name ∈ found := by
  obtain ⟨base, located, there⟩ := find_eq_ok stands
  have below :=
    eq_append_of_locate_child inside located there (locate_of_filePlace free)
  subst below
  have member : (base ++ [name], Node.file data) ∈ files.nodes := by
    rw [FileSystem.at?, if_neg (by simp)] at file
    obtain ⟨before, after, split, _⟩ := List.lookup_eq_some_iff.mp file
    simp [split]
  have names : Flow.below? base (base ++ [name]) = some [name] := by
    rw [Flow.below?, if_pos (by simp), List.drop_left]
  have candidate :
      directory.child name ∈ Flow.candidates directory base recursive
        files.nodes := by
    refine List.mem_filterMap.mpr ⟨_, member, ?_⟩
    have path : (⟨directory.anchor, directory.names ++ [name]⟩ : Path) =
        directory.child name :=
      rfl
    simp [names, path, flow]
  have found : Flow.discover files directory recursive =
      .ok ((Flow.candidates directory base recursive files.nodes).mergeSort
        Path.le) := by
    rw [Flow.discover, isDirectory_of_find stands]
    dsimp only
    rw [located]
  exact ⟨_, found, List.mem_mergeSort.mpr candidate⟩

end FileSystem

namespace CommandLine

open FileSystem

variable {σ : Type} {driver : Driver σ} {name : String} {values : CreateValues}
  {world after : World σ}

/-- A new flow file loads as the flow that was asked for. Where a command to
make one ends well, for a name with more than blanks and without slashes, and
the name and the base address mean nothing else in an environment, the file
holds one flow there, both ways of loading give it, and the file is found in its
directory. The flow has the name without the blanks around, the base address
asked for or that of the template, and the steps of the template, in order and
none of them malformed. -/
theorem create_loads_back (environment : Environment)
    (ended : perform driver (.create name values) world =
      (.ok (.code 0), after)) (shown : ∃ c ∈ name.toList, ¬ isBlank c)
    (whole : '/' ∉ name.toList) (inertName : Reference.Inert environment name)
    (inertUrl : ∀ url ∈ values.baseUrl, Reference.Inert environment url) :
    ∃ settings template title usual steps flow,
      (Act.settings world).1 = .ok settings ∧
      let directory := outputDir world.files settings values.output
      let path := newFlowPath directory name
      template ∈ Template.all ∧ template.key = values.template ∧
      template.members = [("name", .text title), ("baseUrl", .text usual),
        ("steps", .array steps)] ∧
      Flow.load after.files environment path = .ok flow ∧
      Flow.loadAll after.files environment path = .ok [flow] ∧
      flow.name = trim name ∧
        flow.baseUrl = some (firstText [values.baseUrl, some usual]) ∧
      flow.description = none ∧
      List.Forall₂ (fun document step => Step.read document.toValue = .ok step)
        steps flow.steps ∧
      flow.malformedSteps = [] ∧
      ∀ recursive, ∃ found,
        Flow.discover after.files directory recursive = .ok found ∧
          path ∈ found := by
  obtain ⟨settings, document, chosen, makes⟩ := makes_of_perform ended
  obtain ⟨free, file, stands, -⟩ := makes.changes
  have filled : name ≠ "" := by
    rintro rfl
    obtain ⟨c, member, -⟩ := shown
    simp at member
  obtain ⟨template, member, key, title, usual, steps, members, inert,
      sound, rfl⟩ :=
    Template.exists_of_find? environment filled makes.template
  obtain ⟨flow, gives, named, based, plain, stepped, none⟩ :=
    Template.exists_gives_scaffold shown inertName
      (Reference.inert_firstText inertUrl inert) sound
  rw [newFlowPath_of_notMem _ whole] at free file
  have suffix :=
    Template.lower_suffix_fileName shown
      (outputDir world.files settings values.output)
  have reading := Flow.readDocuments_of_block (decide_eq_true suffix)
    (Template.plain_scaffold fun step among => (sound step among).1)
    (find_of_locate (locate_of_filePlace free) file)
  obtain ⟨first, all⟩ := Flow.loads_of_gives reading gives
  refine ⟨settings, template, title, usual, steps, flow, chosen, member, key,
    members, ?_, ?_, named, based, plain, stepped, none, fun recursive => ?_⟩
  all_goals rw [newFlowPath_of_notMem _ whole]
  · exact first
  · exact all
  · refine mem_discover stands Template.fileName_ne free file ?_ recursive
    rw [Flow.hasFlowSuffix, suffix]
    decide

/-- The flow "Größe" is made of the template for registrations, with an address
of its own. -/
private def drafting : Act (List (ScriptedFailure × Nat)) Ending :=
  perform Script.plain.driver
    (.create " Größe " ⟨"signup", some "https://shop.test", some "out"⟩)

/-- The flow "Größe" is loaded from the file `größe.json` in the directory
`out`. -/
theorem create_loads_back_wide :
    ∃ after flow, drafting workshop = (.ok (.code 0), after) ∧
      Flow.load after.files ⟨[("A", "x")]⟩
        ⟨.root, ["work", "out", "größe.json"]⟩ = .ok flow ∧
      flow.name = "Größe" ∧ flow.baseUrl = some "https://shop.test" := by
  have facts : (drafting workshop).1.toOption = some (.code 0) := by
    decide +kernel
  rcases ended : drafting workshop with ⟨result, after⟩
  rw [ended] at facts
  cases eq_ok_of_toOption facts
  obtain ⟨settings, _, _, usual, _, flow, chosen, _, _, _, loaded, _,
      named, based, _⟩ :=
    create_loads_back ⟨[("A", "x")]⟩ ended ⟨'G', by decide, by decide⟩
      (by decide)
      (Reference.inert_of_notMem (by decide))
      (fun url given => Option.some.inj given ▸ Reference.inert_of_notMem
        (by decide))
  obtain rfl : Settings.rehearsal = settings := Except.ok.inj chosen
  have path :
      newFlowPath (outputDir workshop.files .rehearsal (some "out")) " Größe " =
      ⟨.root, ["work", "out", "größe.json"]⟩ := by decide +kernel
  have trimmed : trim " Größe " = "Größe" := by decide +kernel
  rw [path] at loaded
  exact ⟨after, flow, rfl, loaded, named.trans trimmed, based⟩

end CommandLine

end PageFlow
