import PageFlow.CommandLine
import PageFlow.Proofs.Act
import PageFlow.Proofs.LowerCase
import PageFlow.Proofs.Rehearsal
import PageFlow.Proofs.Splitting
import PageFlow.Proofs.Ways

/-!
# Names of new flow files

The name of a flow becomes the name of its file by folding blanks and case.
Neither puts a slash into it or takes one out, so that the file lies in the
directory for new flow files exactly as long as the name of the flow has no
slash.
-/

namespace PageFlow

open PageFlow.Text

/-! ## Characters of a name -/

namespace Text

variable {c mark : Char} {s : List Char}

theorem mem_dropWhile_isBlank (shown : ¬ isBlank c) :
    c ∈ s.dropWhile isBlank ↔ c ∈ s := by
  induction s with
  | nil => simp
  | cons d s induction =>
      rw [List.dropWhile_cons]
      split
      · rename_i blank
        have apart : c ≠ d := fun same => shown (same.symm ▸ blank)
        rw [induction, List.mem_cons, or_iff_right apart]
      · rfl

theorem mem_trimChars (shown : ¬ isBlank c) : c ∈ trimChars s ↔ c ∈ s := by
  rw [trimChars, trimBack, List.mem_reverse, mem_dropWhile_isBlank shown,
    List.mem_reverse, trimFront, mem_dropWhile_isBlank shown]

theorem mem_foldBlanks (shown : ¬ isBlank c) (other : c ≠ mark) :
    c ∈ foldBlanks mark s ↔ c ∈ s := by
  induction s with
  | nil => rfl
  | cons d s induction =>
      have apart (blank : isBlank d) : c ≠ d :=
        fun same => shown (same.symm ▸ blank)
      unfold foldBlanks
      split
      · rename_i blank
        split
        · simp [other, apart blank]
        · split
          · rw [induction]
            simp [apart blank]
          · rw [List.mem_cons, induction]
            simp [other, apart blank]
      · rw [List.mem_cons, induction, List.mem_cons]

theorem foldBlanks_ne_nil (filled : s ≠ []) : foldBlanks mark s ≠ [] := by
  induction s with
  | nil => exact absurd rfl filled
  | cons c s induction =>
      unfold foldBlanks
      split
      · split
        · simp
        · split
          · exact induction (by simp)
          · simp
      · simp

end Text

/-! ## Names of paths -/

namespace Path

theorem notMem_of_mem_ofText {name text : String}
    (member : name ∈ (ofText text).names) : '/' ∉ name.toList := by
  simp only [ofText, namesOf, List.mem_map, List.mem_filter] at member
  obtain ⟨part, ⟨among, -⟩, rfl⟩ := member
  rw [String.toList_ofList]
  exact notMem_of_mem_splitOn among

theorem join_of_ofText {base : Path} {name : String}
    (single : ofText name = ⟨.relative, [name]⟩) :
    base.join (ofText name) = base.child name := by
  rw [single]
  rfl

end Path

namespace Template

variable {name : String}

/-- The characters of a file name in front of its suffix. -/
def stem (name : String) : List Char :=
  foldBlanks '-' (lowerChars (trimChars name.toList))

theorem toList_fileName (name : String) :
    (fileName name).toList = stem name ++ ".json".toList := by
  rw [fileName, String.toList_append, String.toList_ofList]
  rfl

theorem slash_mem_fileName :
    '/' ∈ (fileName name).toList ↔ '/' ∈ name.toList := by
  have shown : ¬ isBlank '/' := by decide
  have own : lowerChar '/' = ['/'] := by decide +kernel
  have suffix : '/' ∉ ".json".toList := by decide
  rw [toList_fileName, List.mem_append, or_iff_left suffix, stem,
    mem_foldBlanks shown (by decide), mem_lowerChars (by decide) own,
    mem_trimChars shown]

theorem length_fileName (name : String) : 5 ≤ (fileName name).length := by
  rw [← String.length_toList, toList_fileName, List.length_append]
  exact Nat.le_add_left _ _

theorem fileName_ne : fileName name ≠ ".." := by
  intro same
  have length := length_fileName name
  rw [same] at length
  revert length
  decide

/-- The file name of a flow is a single name exactly if the name of the flow has
no slash. -/
theorem ofText_fileName_iff :
    Path.ofText (fileName name) = ⟨.relative, [fileName name]⟩ ↔
      '/' ∉ name.toList := by
  rw [← slash_mem_fileName]
  have length := length_fileName name
  constructor
  · intro single
    have member : fileName name ∈ (Path.ofText (fileName name)).names := by
      rw [single]
      exact List.mem_singleton_self _
    exact Path.notMem_of_mem_ofText member
  · intro whole
    refine Path.ofText_of_notMem whole ?_ ?_
    all_goals
      intro same
      rw [same] at length
      revert length
      decide

end Template

/-! ## Making a flow file -/

namespace FileSystem

theorem destination_append (place : Place) (names more : List String) :
    destination place (names ++ more) =
      destination (destination place names) more := by
  induction names generalizing place with
  | nil => rfl
  | cons name names induction =>
      rw [List.cons_append, destination, destination]
      split <;> exact induction _

theorem placeOf_child (workdir : Place) (path : Path) {name : String}
    (inside : name ≠ "..") :
    placeOf workdir (path.child name) = placeOf workdir path ++ [name] := by
  have behind (place : Place) : destination place [name] = place ++ [name] := by
    rw [destination, if_neg inside, destination]
  exact (destination_append _ _ _).trans (behind _)

theorem write_eq_ok {files written : FileSystem} {path : Path}
    {data : List UInt8} (writing : files.write path data = .ok written) :
    files.filePlace path = .ok (placeOf files.workdir path) ∧
      written = files.put (placeOf files.workdir path) (.file data) := by
  rw [write] at writing
  split at writing
  · cases writing
  · rename_i place free
    cases writing
    obtain ⟨rfl, -⟩ := filePlace_eq_ok free
    exact ⟨free, rfl⟩

end FileSystem

namespace CommandLine

open Act FileSystem

variable {σ : Type} {driver : Driver σ} {name : String} {values : CreateValues}
  {world after : World σ}

theorem files_of_settings {settings : Settings}
    (read : Act.settings world = (.ok settings, after)) :
    after.files = world.files := by
  unfold Act.settings at read
  split at read
  · cases read
    rfl
  · split at read <;> cases read
    rfl

theorem files_of_ensureDirectory {path : Path} {result : Unit}
    (ensured : Act.ensureDirectory path world = (.ok result, after)) :
    world.files.ensureDirectory path = (after.files, .ok ()) := by
  unfold Act.ensureDirectory at ensured
  split at ensured <;> cases ensured
  assumption

theorem files_of_writeFile {path : Path} {data : List UInt8} {result : Unit}
    (written : writeFile path data world = (.ok result, after)) :
    world.files.write path data = .ok after.files := by
  unfold writeFile at written
  split at written <;> cases written
  assumption

/-- A flow file is made of a template: its directory is made first, and then the
file is written. -/
structure Makes (name : String) (values : CreateValues) (settings : Settings)
    (document : Json) (before after : FileSystem) : Prop where
  template :
    Template.find? values.template (some name) values.baseUrl = some document
  written : ∃ ready,
    before.ensureDirectory (outputDir before settings values.output) =
        (ready, .ok ()) ∧
      ready.write (newFlowPath (outputDir before settings values.output) name)
        (encodeUtf8 (Json.block .ascii document ++ "\n")) = .ok after

theorem makes_of_perform
    (ended : perform driver (.create name values) world =
      (.ok (.code 0), after)) :
    ∃ settings document, (Act.settings world).1 = .ok settings ∧
      Makes name values settings document world.files after.files := by
  rw [perform, map_eq_pure_bind] at ended
  obtain ⟨code, last, made, coded⟩ := bind_eq_ok.mp ended
  cases coded
  unfold create at made
  cases found : Template.find? values.template (some name) values.baseUrl with
  | none =>
      rw [found] at made
      obtain ⟨_, _, -, made⟩ := bind_eq_ok.mp made
      obtain ⟨_, _, -, made⟩ := bind_eq_ok.mp made
      cases made
  | some document =>
      rw [found] at made
      obtain ⟨settings, read, chosen, made⟩ := bind_eq_ok.mp made
      rw [ask_bind, files_of_settings chosen] at made
      obtain ⟨_, resolved, checked, rest⟩ := bind_eq_ok.mp made
      obtain ⟨-, rfl⟩ := orFail_eq_ok checked
      obtain ⟨_, ready, ensured, made⟩ := bind_eq_ok.mp rest
      obtain ⟨_, stored, written, told⟩ := bind_eq_ok.mp made
      have ensured := files_of_ensureDirectory ensured
      rw [files_of_settings chosen] at ensured
      have same : after.files = stored.files := by
        cases told
        rfl
      refine ⟨settings, document, congrArg Prod.fst chosen, found,
        ready.files, ensured, ?_⟩
      rw [same]
      exact files_of_writeFile written

namespace Makes

variable {settings : Settings} {document : Json} {before stored : FileSystem}

/-- The directory is there, the file stands at its place, and nothing else
changes but for directories that were missing on the way. -/
theorem changes (makes : Makes name values settings document before stored) :
    let directory := outputDir before settings values.output
    let place := placeOf before.workdir (newFlowPath directory name)
    stored.filePlace (newFlowPath directory name) = .ok place ∧
      stored.at? place =
        some (.file (encodeUtf8 (Json.block .ascii document ++ "\n"))) ∧
      stored.find directory = .ok .directory ∧
      ∀ other ≠ place, stored.at? other = before.at? other ∨
        MadeOnWay directory before stored other := by
  intro directory place
  obtain ⟨ready, ensured, writing⟩ := makes.written
  have opened :
      Extends (fun _ => False) before (before.ensureDirectory directory).1 :=
    extends_ensureDirectory before directory
  have stands := find_of_ensureDirectory (congrArg Prod.snd ensured)
  have made (other : Place) :
      (before.ensureDirectory directory).1.at? other = before.at? other ∨
      MadeOnWay directory before (before.ensureDirectory directory).1 other :=
    at?_makeDirectories _ directory other
  rw [ensured] at opened stands made
  have grown : Extends (fun _ => False) ready stored :=
    (widens_write id writing).toExtends
  obtain ⟨free, same⟩ := write_eq_ok writing
  rw [opened.workdir] at free same
  have file : stored.at? place =
      some (.file (encodeUtf8 (Json.block .ascii document ++ "\n"))) := by
    have root : place ≠ [] :=
      fun root => (filePlace_eq_ok free).2 (by rw [FileSystem.at?, if_pos root])
    rw [same, at?_put, if_neg root, if_pos rfl]
  refine ⟨filePlace_later grown free (by simp [file]), file,
    grown.find (.inl rfl) stands, ?_⟩
  intro other apart
  have kept : stored.at? other = ready.at? other := by
    rw [same, at?_put, if_neg apart]
    split
    · rw [FileSystem.at?, if_pos ‹_›]
    · rfl
  exact (made other).imp kept.trans fun new => new.extend grown

end Makes

theorem newFlowPath_of_notMem (directory : Path) (whole : '/' ∉ name.toList) :
    newFlowPath directory name = directory.child (Template.fileName name) :=
  Path.join_of_ofText (Template.ofText_fileName_iff.mpr whole)

/-- Where a command to make a flow file ends well, one file was written, and
nothing else changed but for directories that were missing on the way. The file
lies in the directory for new flow files if the name of the flow has no slash.
With a slash its file name is no single name of a path, and the file may lie
anywhere. -/
theorem create_keeps_inside
    (ended : perform driver (.create name values) world =
      (.ok (.code 0), after)) :
    ∃ settings document, (Act.settings world).1 = .ok settings ∧
      Template.find? values.template (some name) values.baseUrl =
        some document ∧
      let directory := outputDir world.files settings values.output
      let path := newFlowPath directory name
      let place := placeOf world.files.workdir path
      after.files.at? place =
        some (.file (encodeUtf8 (Json.block .ascii document ++ "\n"))) ∧
      (∀ other ≠ place, after.files.at? other = world.files.at? other ∨
        MadeOnWay directory world.files after.files other) ∧
      (Path.ofText (Template.fileName name) =
          ⟨.relative, [Template.fileName name]⟩ ↔
        '/' ∉ name.toList) ∧
      ('/' ∉ name.toList →
        path = directory.child (Template.fileName name) ∧
        place = placeOf world.files.workdir directory ++
          [Template.fileName name] ∧
        after.files.find directory = .ok .directory) := by
  obtain ⟨settings, document, chosen, makes⟩ := makes_of_perform ended
  obtain ⟨-, file, directory, others⟩ := makes.changes
  refine ⟨settings, document, chosen, makes.template, file, others,
    Template.ofText_fileName_iff, fun whole => ?_⟩
  have path :=
    newFlowPath_of_notMem (outputDir world.files settings values.output) whole
  refine ⟨path, ?_, directory⟩
  rw [path]
  exact placeOf_child _ _ Template.fileName_ne

/-- Somebody works in a directory. -/
def workshop : World (List (ScriptedFailure × Nat)) :=
  .rehearsal .plain ⟨[(["work"], .directory)], ["work"]⟩

private def making (name : String) :
    Act (List (ScriptedFailure × Nat)) Ending :=
  perform Script.plain.driver (.create name ⟨"login", none, some "out"⟩)

/-- The file of the flow "My Test" is `my-test.json` in the directory `out`. -/
theorem create_keeps_inside_spaced :
    ∃ after, making "My Test" workshop = (.ok (.code 0), after) ∧
      after.files.nodes.map Prod.fst =
        [["work"], ["work", "out"], ["work", "out", "my-test.json"]] ∧
      after.files.find ⟨.root, ["work", "out"]⟩ = .ok .directory := by
  have facts : ((making "My Test" workshop).1.toOption,
      (making "My Test" workshop).2.files.nodes.map Prod.fst) =
      (some (.code 0),
        [["work"], ["work", "out"], ["work", "out", "my-test.json"]]) := by
    decide +kernel
  rcases ended : making "My Test" workshop with ⟨result, after⟩
  rw [ended] at facts
  obtain ⟨done, places⟩ := Prod.mk.inj facts
  cases eq_ok_of_toOption done
  obtain ⟨settings, _, chosen, _, _, _, _, inside⟩ := create_keeps_inside ended
  obtain rfl : Settings.rehearsal = settings := Except.ok.inj chosen
  obtain ⟨_, _, directory⟩ := inside (by decide)
  have output : outputDir workshop.files .rehearsal (some "out") =
      ⟨.root, ["work", "out"]⟩ := by
    decide +kernel
  rw [output] at directory
  exact ⟨after, rfl, places, directory⟩

/-- The file of the flow "../escaped" lies beside the directory that is asked
for, and not in it. -/
theorem create_leaves_directory :
    Path.ofText (Template.fileName "../escaped") =
        ⟨.relative, ["..", "escaped.json"]⟩ ∧
      outputDir workshop.files .rehearsal (some "out") =
        ⟨.root, ["work", "out"]⟩ ∧
      workshop.files.nodes.map Prod.fst = [["work"]] ∧
      (making "../escaped" workshop).1.toOption = some (.code 0) ∧
      (making "../escaped" workshop).2.files.nodes.map Prod.fst =
        [["work"], ["work", "out"], ["work", "escaped.json"]] := by
  decide +kernel

end CommandLine

end PageFlow
