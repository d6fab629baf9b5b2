import Mathlib.Data.List.Lex
import Mathlib.Data.String.Basic
import PageFlow.CommandLine.Targets
import PageFlow.Proofs.Act
import PageFlow.Proofs.Files
import PageFlow.Proofs.LowerCase
import PageFlow.Proofs.Splitting

/-!
# Search for flow files

A search lists the flow files below a directory, each once and in the order of
their names from the root on. The suffix of a file name decides, whatever the
names of the directories above. Commands take their targets one by one: a
directory stands for the flow files below it, and anything else for itself.
-/

namespace PageFlow

open PageFlow.Text

/-! ## The order of paths -/

namespace Path

theorem namesLe_iff_lex {a b : List String} :
    namesLe a b = true ↔ a = b ∨ List.Lex (· < ·) a b := by
  induction a generalizing b with
  | nil => cases b <;> simp [namesLe]
  | cons first a induction =>
      cases b with
      | nil => simp [namesLe]
      | cons other b =>
          rw [namesLe, List.cons_lex_cons_iff]
          by_cases same : first = other
          · simp [same, induction]
          · simp [same]

theorem namesLe_iff {a b : List String} : namesLe a b = true ↔ a ≤ b := by
  rw [namesLe_iff_lex, le_iff_eq_or_lt]
  rfl

theorem le_trans (a b c : Path) (first : a.le b = true)
    (second : b.le c = true) : a.le c = true :=
  namesLe_iff.mpr ((namesLe_iff.mp first).trans (namesLe_iff.mp second))

theorem le_total (a b : Path) : (a.le b || b.le a) = true := by
  rw [Bool.or_eq_true]
  exact (Std.Total.total a.sortKey b.sortKey).imp namesLe_iff.mpr
    namesLe_iff.mpr

def Precedes (a b : Path) : Prop :=
  List.Lex (· < ·) a.sortKey b.sortKey

theorem Precedes.asymm {a b : Path} (before : a.Precedes b) :
    ¬ b.Precedes a := by
  have first : a.sortKey < b.sortKey := before
  exact fun second : b.sortKey < a.sortKey => lt_asymm first second

theorem Precedes.ne {a b : Path} (before : a.Precedes b) : a ≠ b := by
  rintro rfl
  exact before.asymm before

theorem sortKey_inj {a b : Path} (anchors : a.anchor = b.anchor)
    (keys : a.sortKey = b.sortKey) : a = b := by
  obtain ⟨anchor, names⟩ := a
  obtain ⟨other, others⟩ := b
  cases anchors
  unfold sortKey isAbsolute at keys
  dsimp only at keys
  split at keys
  · rw [(List.cons.inj keys).2]
  · rw [keys]

/-! ## Suffixes -/

theorem suffixOf_of_notMem {name : List Char} (plain : '.' ∉ name) :
    suffixOf name = [] := by
  have tail : name.reverse.takeWhile (· ≠ '.') = name.reverse := by
    refine List.takeWhile_eq_self_iff.mpr fun c member => ?_
    simpa using fun same : c = '.' => plain (same ▸ List.mem_reverse.mp member)
  rw [suffixOf, tail]
  simp

/-- A suffix begins at the last dot of a name, if there is something before and
behind the dot. -/
theorem suffixOf_append {stem ending : List Char} (last : '.' ∉ ending) :
    suffixOf (stem ++ '.' :: ending) = if stem = [] ∨ ending = [] then []
      else '.' :: ending := by
  have tail :
      (stem ++ '.' :: ending).reverse.takeWhile (· ≠ '.') = ending.reverse := by
    rw [List.reverse_append, List.reverse_cons, List.append_assoc,
      List.takeWhile_append_of_pos]
    · simp
    · intro c member
      simpa using fun same : c = '.' => last (same ▸ List.mem_reverse.mp member)
  have short : (stem ++ '.' :: ending).length ≤ ending.length + 1 ↔
      stem = [] := by
    rw [List.length_append, List.length_cons, ← List.length_eq_zero_iff]
    omega
  rw [suffixOf, tail]
  simp only [List.isEmpty_reverse, List.length_reverse, List.reverse_reverse,
    short, Bool.or_eq_true, List.isEmpty_iff, decide_eq_true_eq, or_comm]

theorem exists_last_dot {name : List Char} (dotted : '.' ∈ name) :
    ∃ stem ending, name = stem ++ '.' :: ending ∧ '.' ∉ ending := by
  obtain ⟨before, behind, split, first⟩ :=
    List.eq_append_cons_of_mem (List.mem_reverse.mpr dotted)
  refine ⟨behind.reverse, before.reverse, ?_, by simpa using first⟩
  rw [← List.reverse_reverse name, split]
  simp

end Path

namespace Flow

/-- A file name ends in a suffix of flow files, in any case of letters: a dot
behind which there is no other one, and before which there is something. -/
def IsFlowName (name : String) : Prop :=
  ∃ stem ending : List Char,
    name.toList = stem ++ '.' :: ending ∧ stem ≠ [] ∧ '.' ∉ ending ∧
    lower (String.ofList ('.' :: ending)) ∈ suffixes

theorem hasFlowSuffix_iff (path : Path) :
    hasFlowSuffix path = true ↔ IsFlowName path.name := by
  have none : lower (String.ofList []) ∉ suffixes := by decide +kernel
  have dot : lower (String.ofList ['.']) ∉ suffixes := by decide +kernel
  rw [hasFlowSuffix, List.contains_iff_mem, Path.suffix]
  constructor
  · intro found
    by_cases dotted : '.' ∈ path.name.toList
    · obtain ⟨stem, ending, split, last⟩ := Path.exists_last_dot dotted
      rw [split, Path.suffixOf_append last] at found
      split_ifs at found with short
      · exact absurd found none
      · exact ⟨stem, ending, split, fun empty => short (.inl empty),
          last, found⟩
    · rw [Path.suffixOf_of_notMem dotted] at found
      exact absurd found none
  · rintro ⟨stem, ending, split, before, last, found⟩
    rw [split, Path.suffixOf_append last, if_neg]
    · exact found
    · rintro (empty | rfl)
      · exact before empty
      · exact dot found

/-! ## Candidates -/

variable {files : FileSystem} {root path : Path} {base place : Place}
  {names : List String} {recursive : Bool}

theorem below?_eq_some_iff :
    below? base place = some names ↔ names ≠ [] ∧ place = base ++ names := by
  rw [below?]
  constructor
  · intro found
    split at found
    · rename_i inside
      obtain ⟨rest, rfl⟩ := List.isPrefixOf_iff_prefix.mp inside.1
      cases found
      have some : 0 < rest.length := by simpa using inside.2
      rw [List.drop_left]
      exact ⟨List.length_pos_iff.mp some, rfl⟩
    · cases found
  · rintro ⟨some, rfl⟩
    have longer : base.length < (base ++ names).length := by
      simpa using List.length_pos_iff.mpr some
    rw [if_pos ⟨List.isPrefixOf_iff_prefix.mpr (List.prefix_append _ _),
        longer⟩, List.drop_left]

/-- A path behind a directory leads to a flow file below it. -/
def Leads (files : FileSystem) (root : Path) (base : Place) (path : Path) :
    Prop :=
  ∃ names, names ≠ [] ∧ path = ⟨root.anchor, root.names ++ names⟩ ∧
    (∃ node, files.at? (base ++ names) = some node ∧ node ≠ .directory) ∧
      IsFlowName path.name

theorem Leads.anchor (leads : Leads files root base path) :
    path.anchor = root.anchor := by
  obtain ⟨names, -, rfl, -⟩ := leads
  rfl

/-- A path behind a directory lies directly in it if it has one name more. -/
theorem parent_eq_iff (some : names ≠ []) :
    Path.parent ⟨root.anchor, root.names ++ names⟩ = root ↔
      names.length = 1 := by
  have length : 0 < names.length := List.length_pos_iff.mpr some
  obtain ⟨anchor, before⟩ := root
  rw [Path.parent, List.dropLast_append_of_ne_nil some, Path.mk.injEq,
    List.append_right_eq_self, ← List.length_eq_zero_iff, List.length_dropLast]
  simp only [true_and]
  omega

/-- Where no two nodes stand at one place, the nodes are those that are found at
their places. -/
theorem mem_nodes_iff (distinct : (files.nodes.map Prod.fst).Nodup)
    (some : place ≠ []) {node : Node} :
    (place, node) ∈ files.nodes ↔ files.at? place = .some node := by
  rw [FileSystem.at?, if_neg some]
  exact mem_iff_lookup distinct place node

theorem leaf_iff {node : Node} :
    (!node matches .directory) = true ↔ node ≠ .directory := by
  cases node <;> simp

/-- What one node gives: a path, if it is a flow file below the directory. -/
theorem mem_candidates_singleton {node : Node} :
    path ∈ candidates root base recursive [(place, node)] ↔
      ∃ names, names ≠ [] ∧ place = base ++ names ∧
        path = ⟨root.anchor, root.names ++ names⟩ ∧
        node ≠ .directory ∧ IsFlowName path.name ∧
          (recursive = true ∨ path.parent = root) := by
  rw [candidates, List.mem_filterMap]
  simp only [List.mem_singleton, exists_eq_left]
  cases below : below? base place with
  | none =>
      refine iff_of_false (by simp) ?_
      rintro ⟨names, some, split, -⟩
      cases below.symm.trans (below?_eq_some_iff.mpr ⟨some, split⟩)
  | some names =>
      obtain ⟨some, rfl⟩ := below?_eq_some_iff.mp below
      dsimp only
      rw [Option.ite_none_right_eq_some, Option.some.injEq]
      simp only [Bool.and_eq_true, Bool.or_eq_true, beq_iff_eq,
        hasFlowSuffix_iff]
      constructor
      · rintro ⟨⟨⟨file, deep⟩, suffix⟩, rfl⟩
        exact ⟨names, some, rfl, rfl, leaf_iff.mp file, suffix,
          deep.imp_right (parent_eq_iff some).mpr⟩
      · rintro ⟨others, -, same, rfl, file, suffix, deep⟩
        obtain rfl := List.append_cancel_left same
        exact ⟨⟨⟨leaf_iff.mpr file, deep.imp_right (parent_eq_iff some).mp⟩,
          suffix⟩, rfl⟩

theorem mem_candidates {nodes : List (Place × Node)} :
    path ∈ candidates root base recursive nodes ↔
      ∃ entry ∈ nodes, path ∈ candidates root base recursive [entry] := by
  simp [candidates, List.mem_filterMap]

theorem mem_candidates_iff (distinct : (files.nodes.map Prod.fst).Nodup) :
    path ∈ candidates root base recursive files.nodes ↔
      Leads files root base path ∧ (recursive = true ∨ path.parent = root) := by
  rw [mem_candidates]
  constructor
  · rintro ⟨⟨place, node⟩, member, found⟩
    obtain ⟨names, some, rfl, rfl, file, suffix, deep⟩ :=
      mem_candidates_singleton.mp found
    have stands :=
      (mem_nodes_iff distinct (List.append_ne_nil_of_right_ne_nil _ some)).mp
        member
    exact ⟨⟨names, some, rfl, ⟨node, stands, file⟩, suffix⟩, deep⟩
  · rintro ⟨⟨names, some, rfl, ⟨node, stands, file⟩, suffix⟩, deep⟩
    have member :=
      (mem_nodes_iff distinct (List.append_ne_nil_of_right_ne_nil _ some)).mpr
        stands
    exact ⟨_, member,
      mem_candidates_singleton.mpr ⟨names, some, rfl, rfl, file, suffix, deep⟩⟩

theorem nodup_candidates (distinct : (files.nodes.map Prod.fst).Nodup) :
    (candidates root base recursive files.nodes).Nodup := by
  refine List.Pairwise.filterMap _ ?_ (List.pairwise_map.mp distinct)
  rintro ⟨place, node⟩ ⟨other, twin⟩ apart path found _ again rfl
  have first : path ∈ candidates root base recursive [(place, node)] :=
    List.mem_filterMap.mpr ⟨_, List.mem_singleton_self _, found⟩
  have second : path ∈ candidates root base recursive [(other, twin)] :=
    List.mem_filterMap.mpr ⟨_, List.mem_singleton_self _, again⟩
  obtain ⟨names, -, rfl, rfl, -⟩ := mem_candidates_singleton.mp first
  obtain ⟨others, -, rfl, same, -⟩ := mem_candidates_singleton.mp second
  rw [List.append_cancel_left (Path.mk.inj same).2] at apart
  exact apart rfl

/-! ## Searches -/

/-- What a search finds, in order. -/
def found (files : FileSystem) (root : Path) (base : Place) (recursive : Bool) :
    List Path :=
  (candidates root base recursive files.nodes).mergeSort Path.le

theorem mem_found_iff (distinct : (files.nodes.map Prod.fst).Nodup) :
    path ∈ found files root base recursive ↔
      Leads files root base path ∧ (recursive = true ∨ path.parent = root) :=
  List.mem_mergeSort.trans (mem_candidates_iff distinct)

theorem pairwise_found (distinct : (files.nodes.map Prod.fst).Nodup) :
    (found files root base recursive).Pairwise Path.Precedes := by
  have sorted := List.pairwise_mergeSort Path.le_trans Path.le_total
    (candidates root base recursive files.nodes)
  have nodup : (found files root base recursive).Nodup :=
    (List.mergeSort_perm _ _).nodup_iff.mpr (nodup_candidates distinct)
  refine (sorted.and nodup).imp_of_mem ?_
  rintro a b first second ⟨before, apart⟩
  have anchors : a.anchor = b.anchor :=
    ((mem_found_iff distinct).mp first).1.anchor.trans
      ((mem_found_iff distinct).mp second).1.anchor.symm
  exact (Path.namesLe_iff_lex.mp before).resolve_left fun keys =>
    apart (Path.sortKey_inj anchors keys)

/-- Without the directories below, a search finds those of the files that lie
directly in the directory. -/
theorem found_direct (distinct : (files.nodes.map Prod.fst).Nodup) :
    found files root base false = (found files root base true).filter
      fun path => path.parent = root := by
  have whole : (found files root base true).Pairwise Path.Precedes :=
    pairwise_found distinct
  have direct : (found files root base false).Pairwise Path.Precedes :=
    pairwise_found distinct
  have part := whole.filter fun path => path.parent = root
  have asymm : ∀ a b : Path, a.Precedes b → b.Precedes a → a = b :=
    fun a b before behind => absurd behind before.asymm
  refine List.Perm.eq_of_pairwise (fun a b _ _ => asymm a b) direct part ?_
  refine (List.perm_ext_iff_of_nodup (direct.imp Path.Precedes.ne)
    (part.imp Path.Precedes.ne)).mpr ?_
  intro path
  simp [mem_found_iff distinct]

theorem discover_of_directory (directory : files.isDirectory root = .ok true) :
    ∃ base, files.locate root = .ok base ∧ files.at? base = some .directory ∧
      ∀ recursive,
        discover files root recursive =
          .ok (found files root base recursive) := by
  obtain ⟨base, located, there⟩ :=
    FileSystem.find_eq_ok (FileSystem.find_of_isDirectory directory)
  refine ⟨base, located, there, fun recursive => ?_⟩
  rw [discover, directory]
  dsimp only
  rw [located]
  rfl

end Flow

/-! ## Targets -/

/-- Names lead from one place to another: double dots go up by one name, but not
above the root, and other names go down. -/
inductive Path.Walks : Place → List String → Place → Prop
  | nil {place : Place} : Walks place [] place
  | up {place last : Place} {rest : List String} :
      Walks place.dropLast rest last → Walks place (".." :: rest) last
  | down {place last : Place} {name : String} {rest : List String} :
      name ≠ ".." →
      Walks (place ++ [name]) rest last → Walks place (name :: rest) last

/-- A path is resolved to the place that its names lead to, from the root or
from the working directory. -/
structure FileSystem.Resolves (files : FileSystem) (path resolved : Path) :
    Prop where
  root : resolved.anchor = .root
  direct : ".." ∉ resolved.names
  walks :
    Path.Walks [] (if path.isAbsolute then path.names
      else files.workdir ++ path.names)
    resolved.names

namespace Path

/-- A double dot goes up by one name, and another name is added. -/
def follow (done : List String) (name : String) : List String :=
  if name = ".." then done.dropLast else done ++ [name]

theorem up_notMem_foldl {done names : List String} (clean : ".." ∉ done) :
    ".." ∉ names.foldl follow done := by
  induction names generalizing done with
  | nil => exact clean
  | cons name names induction =>
      refine induction ?_
      unfold follow
      split
      · exact fun member => clean (List.dropLast_subset _ member)
      · rename_i other
        simpa [clean] using Ne.symm other

theorem walks_foldl {done names : List String} :
    Walks done names (names.foldl follow done) := by
  induction names generalizing done with
  | nil => exact .nil
  | cons name names induction =>
      rw [List.foldl_cons]
      by_cases up : name = ".."
      · subst up
        exact .up induction
      · refine .down up ?_
        have added : follow done name = done ++ [name] := if_neg up
        exact added ▸ induction

/-- A character of a path is one of the text that writes it, or stands between
names. -/
theorem mem_of_mem_text {text : String} {c : Char}
    (member : c ∈ (ofText text).text.toList) :
    c ∈ text.toList ∨ c = '/' ∨ c = '.' := by
  have anchor (anchor : Anchor) (inside : c ∈ (Anchor.text anchor).toList) :
      c = '/' := by
    cases anchor <;> simp_all [Anchor.text]
  have names (inside : c ∈ ("/".intercalate (ofText text).names).toList) :
      c ∈ text.toList ∨ c = '/' := by
    rw [String.toList_intercalate, show "/".toList = ['/'] from rfl,
      mem_intercalate_iff] at inside
    obtain ⟨_, member, there⟩ | ⟨slash, -⟩ := inside
    · simp only [ofText, namesOf, List.mem_map, List.mem_filter] at member
      obtain ⟨_, ⟨part, ⟨among, -⟩, rfl⟩, rfl⟩ := member
      rw [String.toList_ofList] at there
      exact .inl (mem_of_mem_splitOn among there)
    · exact .inr slash
  rw [Path.text] at member
  split at member
  · exact .inr (.inr (by simpa using member))
  · rw [String.toList_append, List.mem_append] at member
    rcases member with first | later
    · exact .inr (.inl (anchor _ first))
    · exact (names later).imp_right .inl

end Path

namespace FileSystem

variable {files : FileSystem}

theorem resolves_absolute (path : Path) :
    files.Resolves path (files.absolute path) :=
  ⟨rfl, Path.up_notMem_foldl List.not_mem_nil, Path.walks_foldl⟩

/-- A text without a null byte is resolved. -/
theorem resolve_ofText {target : String}
    (plain : Char.ofNat 0 ∉ target.toList) :
    files.resolve (Path.ofText target) =
      .ok (files.absolute (Path.ofText target)) := by
  have clean :
      (Path.ofText target).text.toList.contains (Char.ofNat 0) = false := by
    rw [List.contains_eq_mem, decide_eq_false_iff_not]
    intro member
    rcases Path.mem_of_mem_text member with inside | slash | dot
    · exact plain inside
    · revert slash; decide
    · revert dot; decide
  rw [resolve, clean]
  rfl

end FileSystem

namespace CommandLine

variable {files : FileSystem} {target : String} {paths : List Path}

/-- The paths that a target stands for: the flow files of a directory, or else
its own path. -/
def StandsFor (files : FileSystem) (target : String) (paths : List Path) :
    Prop :=
  ∃ path, files.resolve (Path.ofText target) = .ok path ∧
    (files.isDirectory path = .ok true ∧
        Flow.discover files path true = .ok paths ∨
      files.isDirectory path = .ok false ∧ paths = [path])

theorem expandTarget_eq_ok_iff :
    expandTarget files target = .ok paths ↔ StandsFor files target paths := by
  unfold expandTarget StandsFor
  rcases files.resolve (Path.ofText target) with fault | path
  · simp [bind, Except.bind]
  · rcases known : files.isDirectory path with fault | _ | _ <;>
      simp [bind, Except.bind, pure, Except.pure, known, eq_comm]

theorem expandTarget_of_known {path : Path} {known : Bool}
    (resolved : files.resolve (Path.ofText target) = .ok path)
    (looked : files.isDirectory path = .ok known) :
    ∃ paths, expandTarget files target = .ok paths := by
  cases known with
  | true =>
      obtain ⟨base, -, -, searched⟩ := Flow.discover_of_directory looked
      exact ⟨_, expandTarget_eq_ok_iff.mpr ⟨path, resolved,
        .inl ⟨looked, searched true⟩⟩⟩
  | false =>
      exact ⟨_, expandTarget_eq_ok_iff.mpr ⟨path, resolved, .inr ⟨looked, rfl⟩⟩⟩

/-- In a tree in which no two nodes stand at one place, a search of a directory
finds the files at any depth below it whose names end in a suffix of flow files,
and no others, each once and in the order of paths; without the directories
below it finds those of them that lie directly in the directory. A target
without a null byte has an absolute path behind a single slash, to the place
where its names lead. Targets that can all be looked up stand for what is found
in them if they are directories, and else for their resolved paths, one behind
the other. -/
theorem targets_stand_for_flow_files (files : FileSystem)
    (distinct : (files.nodes.map Prod.fst).Nodup) :
    (∀ root, files.isDirectory root = .ok true →
      ∃ base found,
        files.locate root = .ok base ∧ files.at? base = some .directory ∧
        Flow.discover files root true = .ok found ∧
        found.Pairwise Path.Precedes ∧
        (∀ path, path ∈ found ↔ Flow.Leads files root base path) ∧
        Flow.discover files root false =
          .ok (found.filter fun path => path.parent = root)) ∧
    (∀ target : String, Char.ofNat 0 ∉ target.toList →
      ∃ path, files.resolve (Path.ofText target) = .ok path ∧
        files.Resolves (Path.ofText target) path) ∧
    ∀ targets : List String,
      (∀ target ∈ targets, ∃ path known,
          files.resolve (Path.ofText target) = .ok path ∧
        files.isDirectory path = .ok known) →
      ∃ lists, expandTargets files targets = .ok lists.flatten ∧
        List.Forall₂ (StandsFor files) targets lists := by
  refine ⟨fun root directory => ?_, fun target plain =>
    ⟨_, FileSystem.resolve_ofText plain, files.resolves_absolute _⟩,
      fun targets known => ?_⟩
  · obtain ⟨base, located, there, searched⟩ :=
      Flow.discover_of_directory directory
    refine ⟨base, Flow.found files root base true, located, there,
      searched true, Flow.pairwise_found distinct, fun path => ?_, ?_⟩
    · rw [Flow.mem_found_iff distinct]
      simp
    · rw [searched false, Flow.found_direct distinct]
  · obtain ⟨lists, each⟩ := exists_forall₂_iff.mpr fun target among =>
      let ⟨_, _, resolved, looked⟩ := known target among
      expandTarget_of_known resolved looked
    refine ⟨lists, ?_, each.imp fun _ _ => expandTarget_eq_ok_iff.mp⟩
    rw [expandTargets, mapM_eq_ok.mpr each]
    rfl

/-- A working directory with a file that is hidden, one whose name is all
suffix, and a directory with the name of a flow file. -/
private def cluttered : FileSystem where
  nodes :=
    [(["work"], .directory), (["work", "deep.json"], .directory),
      (["work", "deep.json", "a.b.YaML"], .file []),
      (["work", ".json"], .file []), (["work", ".hidden.yml"], .file [])]
  workdir := ["work"]

/-- The files are found in the working directory, apart from the one without a
suffix, and a missing file stands for itself. -/
theorem targets_stand_for_flow_files_cluttered :
    ∃ found, expandTargets cluttered [".", "x/../missing.json"] =
        .ok (found ++ [⟨.root, ["work", "missing.json"]⟩]) ∧
      ⟨.root, ["work", "deep.json", "a.b.YaML"]⟩ ∈ found ∧
      ⟨.root, ["work", ".hidden.yml"]⟩ ∈ found ∧
      ⟨.root, ["work", ".json"]⟩ ∉ found ∧
        ⟨.root, ["work", "deep.json"]⟩ ∉ found := by
  have here : cluttered.resolve (Path.ofText ".") = .ok ⟨.root, ["work"]⟩ :=
    eq_ok_of_toOption (by decide +kernel)
  have there : cluttered.resolve (Path.ofText "x/../missing.json") =
      .ok ⟨.root, ["work", "missing.json"]⟩ :=
    eq_ok_of_toOption (by decide +kernel)
  have directory : cluttered.isDirectory ⟨.root, ["work"]⟩ = .ok true := by
    decide +kernel
  have missing :
      cluttered.isDirectory ⟨.root, ["work", "missing.json"]⟩ = .ok false := by
    decide +kernel
  obtain ⟨searches, -, expands⟩ :=
    targets_stand_for_flow_files cluttered (by decide)
  obtain ⟨base, found, located, -, searched, -, leads, -⟩ :=
    searches ⟨.root, ["work"]⟩ directory
  obtain rfl : ["work"] = base :=
    Except.ok.inj ((by decide +kernel : _ = _).symm.trans located)
  obtain ⟨lists, expanded, each⟩ := expands [".", "x/../missing.json"]
    (List.forall_mem_cons.mpr ⟨⟨_, _, here, directory⟩,
      List.forall_mem_singleton.mpr ⟨_, _, there, missing⟩⟩)
  obtain ⟨first, _, one, rest, rfl⟩ := List.forall₂_cons_left_iff.mp each
  obtain ⟨second, _, two, last, rfl⟩ := List.forall₂_cons_left_iff.mp rest
  obtain rfl := List.forall₂_nil_left_iff.mp last
  obtain ⟨path, same, one⟩ := one
  obtain rfl := Except.ok.inj (here.symm.trans same)
  obtain ⟨path, same, two⟩ := two
  obtain rfl := Except.ok.inj (there.symm.trans same)
  rw [directory, searched] at one
  rw [missing] at two
  obtain ⟨-, same⟩ | ⟨wrong, -⟩ := one
  swap
  · cases wrong
  cases same
  obtain ⟨wrong, -⟩ | ⟨-, rfl⟩ := two
  · cases wrong
  refine ⟨found, expanded.trans (by simp), ?_, ?_, ?_, ?_⟩
  · refine (leads _).mpr ⟨["deep.json", "a.b.YaML"], by decide, rfl,
      ⟨.file [], rfl, nofun⟩, ?_⟩
    exact (Flow.hasFlowSuffix_iff _).mp (by decide +kernel)
  · refine (leads _).mpr ⟨[".hidden.yml"], by decide, rfl,
      ⟨.file [], rfl, nofun⟩, ?_⟩
    exact (Flow.hasFlowSuffix_iff _).mp (by decide +kernel)
  · intro among
    obtain ⟨_, -, -, -, suffix⟩ := (leads _).mp among
    exact absurd ((Flow.hasFlowSuffix_iff _).mpr suffix) (by decide +kernel)
  · intro among
    obtain ⟨names, -, same, ⟨node, stands, file⟩, -⟩ := (leads _).mp among
    obtain rfl : ["deep.json"] = names := by
      simpa using congrArg Path.names same
    cases stands
    exact file rfl

/-- What cannot be looked up for the length of a name is no directory, but a
fault. -/
theorem isDirectory_of_tooLong {path : Path}
    (refused : files.find path = .error .nameTooLong) :
    files.isDirectory path = .error ⟨.nameTooLong, path.text⟩ := by
  rw [FileSystem.isDirectory, FileSystem.look, refused]
  rfl

theorem find_of_long {name : String}
    (long : FileSystem.nameLimit < name.utf8ByteSize)
    (plain : Char.ofNat 0 ∉ name.toList) :
    files.find ⟨.root, [name]⟩ = .error .nameTooLong := by
  have inside : name ≠ ".." := by
    rintro rfl
    exact absurd long (by decide)
  have clean :
      (Path.text ⟨.root, [name]⟩).toList.contains (Char.ofNat 0) = false := by
    have text : Path.text ⟨.root, [name]⟩ = "/" ++ name := rfl
    rw [text, String.toList_append, List.contains_eq_mem,
      decide_eq_false_iff_not, List.mem_append]
    exact fun member => member.elim (by decide) plain
  rw [FileSystem.find, FileSystem.locate, clean, if_neg Bool.false_ne_true]
  by_cases path : FileSystem.pathLimit <
    (Path.text ⟨.root, [name]⟩).utf8ByteSize
  · rw [if_pos path]
  · have root :
        (if Path.isAbsolute ⟨.root, [name]⟩ then [] else files.workdir) = [] :=
      rfl
    rw [if_neg path, root, FileSystem.follow, FileSystem.at?, if_pos rfl]
    dsimp only
    rw [if_neg inside, if_pos long]

/-- Where nothing stands at all, a target with too long a name is no directory,
and yet it ends the expansion: it is not left to the check of its file, which
would tell what is wrong with it. -/
theorem expandTargets_of_long {name : String}
    (long : FileSystem.nameLimit < name.utf8ByteSize)
    (whole : '/' ∉ name.toList) (plain : Char.ofNat 0 ∉ name.toList) :
    let files : FileSystem := ⟨[], []⟩
    let path : Path := ⟨.root, [name]⟩
    let fault : FileFault := ⟨.nameTooLong, path.text⟩
    files.resolve (Path.ofText name) = .ok path ∧ files.at? [name] = none ∧
      expandTargets files [name] = .error fault ∧
      checkFile files ⟨[]⟩ path =
        (["ERR " ++ path.text ++ "  ->  " ++ fault.message], false) := by
  intro files path fault
  have unlike (other : String)
      (short : other.utf8ByteSize ≤ FileSystem.nameLimit) : name ≠ other := by
    rintro rfl
    exact absurd long (Nat.not_lt.mpr short)
  have resolved : files.resolve (Path.ofText name) = .ok path := by
    rw [FileSystem.resolve_ofText plain,
      Path.ofText_of_notMem whole (unlike _ (by decide)) (unlike _ (by decide))]
    have up := unlike ".." (by decide)
    simp [FileSystem.absolute, Path.isAbsolute, Path.normalNames, up, files,
      path]
  have refused : files.find path = .error .nameTooLong :=
    find_of_long long plain
  have unread : files.exists? path = .error fault := by
    rw [FileSystem.exists?, FileSystem.look, refused]
    rfl
  have single : expandTarget files name = .error fault := by
    rw [expandTarget, resolved]
    dsimp only [bind, Except.bind]
    rw [isDirectory_of_tooLong refused]
  refine ⟨resolved, rfl, ?_, ?_⟩
  · rw [expandTargets, List.mapM_cons, single]
    rfl
  · rw [checkFile, Flow.loadAll, Flow.readDocuments, unread]
    rfl

private def longName : String :=
  String.ofList (List.replicate 300 'a')

/-- The expansion of a name of 300 characters is not the path of the name. -/
theorem expandTargets_of_long_name :
    let files : FileSystem := ⟨[], []⟩
    let path : Path := ⟨.root, [longName]⟩
    let fault : FileFault := ⟨.nameTooLong, path.text⟩
    files.resolve (Path.ofText longName) = .ok path ∧
      files.at? [longName] = none ∧
      expandTargets files [longName] = .error fault ∧
      expandTargets files [longName] ≠ .ok [path] ∧
      checkFile files ⟨[]⟩ path =
        (["ERR " ++ path.text ++ "  ->  " ++ fault.message], false) := by
  have long : FileSystem.nameLimit < longName.utf8ByteSize := by decide +kernel
  have other (c : Char) (apart : c ≠ 'a') : c ∉ longName.toList := by
    have letters : longName.toList = List.replicate 300 'a' :=
      String.toList_ofList
    exact fun member => apart (List.eq_of_mem_replicate (letters ▸ member))
  have slash : '/' ∉ longName.toList := other '/' (by decide)
  have null : Char.ofNat 0 ∉ longName.toList := other _ (by decide)
  generalize longName = name at long slash null
  obtain ⟨resolved, free, ended, checked⟩ :=
    expandTargets_of_long long slash null
  refine ⟨resolved, free, ended, ?_, checked⟩
  rw [ended]
  nofun

end CommandLine

end PageFlow
