import PageFlow.FileSystem
import PageFlow.History

/-!
# Growing file systems

The program adds directories and writes files, and removes nothing. A path leads
to the same place at all times, so that files stay as they are unless they stand
at a place that is written to.
-/

namespace PageFlow

/-- The first entry of a list of pairs is found under its own key only. -/
theorem lookup_entry {κ ν : Type} [BEq κ] [LawfulBEq κ] [DecidableEq κ]
    (key other : κ) (value : ν) (entries : List (κ × ν)) :
    ((key, value) :: entries).lookup other =
      if other = key then some value else entries.lookup other := by
  rw [List.lookup_cons]
  by_cases same : other = key
  · rw [if_pos same, same, beq_self_eq_true]
  · rw [if_neg same, beq_false_of_ne same]

theorem mem_iff_lookup {κ ν : Type} [BEq κ] [LawfulBEq κ] [DecidableEq κ]
    {entries : List (κ × ν)} (distinct : (entries.map Prod.fst).Nodup) (key : κ)
    (value : ν) :
    (key, value) ∈ entries ↔ entries.lookup key = some value := by
  induction entries with
  | nil => simp
  | cons entry entries induction =>
      obtain ⟨first, told⟩ := entry
      rw [List.map_cons, List.nodup_cons] at distinct
      rw [lookup_entry, List.mem_cons, Prod.mk.injEq]
      by_cases here : key = first
      · subst here
        have absent : (key, value) ∉ entries := fun among =>
          distinct.1
            (List.mem_map_of_mem (f := Prod.fst) (a := (key, value)) among)
        simp [absent, eq_comm]
      · simp [here, induction distinct.2]

namespace FileSystem

/-! ## Places -/

/-- The place that names lead to, if they lead anywhere. -/
def destination : Place → List String → Place
  | place, [] => place
  | place, name :: rest =>
    if name = ".." then destination place.dropLast rest
      else destination (place ++ [name]) rest

/-- The place of a path, if it leads anywhere. -/
def placeOf (workdir : Place) (path : Path) : Place :=
  destination (if path.isAbsolute then [] else workdir) path.names

theorem eq_destination_of_follow {files : FileSystem} {place found : Place}
    {names : List String} (followed : files.follow place names = .ok found) :
    found = destination place names := by
  induction names generalizing place with
  | nil =>
      cases followed
      rfl
  | cons name names induction =>
      rw [follow] at followed
      rw [destination]
      split at followed
      · cases followed
      · split at followed
        · rw [if_pos ‹_›]
          exact induction followed
        · rw [if_neg ‹_›]
          split at followed
          · cases followed
          · exact induction followed
      · cases followed

theorem follow_append {files : FileSystem} {place found : Place}
    {names : List String} (followed : files.follow place names = .ok found)
    (more : List String) :
    files.follow place (names ++ more) = files.follow found more := by
  induction names generalizing place with
  | nil =>
      cases followed
      rfl
  | cons name names induction =>
      rw [List.cons_append, follow]
      rw [follow] at followed
      split at followed
      · cases followed
      · split at followed
        · rw [if_pos ‹_›]
          exact induction followed
        · rw [if_neg ‹_›]
          split at followed
          · cases followed
          · rw [if_neg ‹_›]
            exact induction followed
      · cases followed

theorem follow_of_locate {files : FileSystem} {path : Path} {place : Place}
    (located : files.locate path = .ok place) :
    files.follow (if path.isAbsolute then [] else files.workdir) path.names =
      .ok place := by
  rw [locate] at located
  split at located
  · cases located
  · split at located
    · cases located
    · exact located

theorem eq_placeOf_of_locate {files : FileSystem} {path : Path} {place : Place}
    (located : files.locate path = .ok place) :
    place = placeOf files.workdir path :=
  eq_destination_of_follow (follow_of_locate located)

theorem find_eq_ok {files : FileSystem} {path : Path} {node : Node}
    (found : files.find path = .ok node) :
    ∃ place, files.locate path = .ok place ∧ files.at? place = some node := by
  rw [find] at found
  split at found
  · cases found
  · rename_i place located
    cases there : files.at? place with
    | none => simp [there] at found
    | some present =>
        simp only [there, Except.ok.injEq] at found
        exact ⟨place, located, found ▸ there⟩

/-! ## Nodes -/

theorem lookup_replace (place other : Place) (node : Node)
    (nodes : List (Place × Node)) :
    (put.replace place node nodes).lookup other =
      if other = place then some node else nodes.lookup other := by
  induction nodes with
  | nil => exact lookup_entry place other node []
  | cons entry nodes induction =>
      obtain ⟨first, present⟩ := entry
      rw [put.replace]
      by_cases here : first = place
      · rw [if_pos here, lookup_entry, lookup_entry, here]
        split <;> rfl
      · rw [if_neg here, lookup_entry, lookup_entry, induction]
        by_cases same : other = first
        · rw [if_pos same, if_pos same, if_neg (same ▸ here)]
        · rw [if_neg same, if_neg same]

theorem at?_put (files : FileSystem) (place other : Place) (node : Node) :
    (files.put place node).at? other =
      if other = [] then some .directory
      else if other = place then some node else files.at? other := by
  unfold at?
  by_cases root : other = []
  · rw [if_pos root, if_pos root]
  · rw [if_neg root, if_neg root, if_neg root]
    exact lookup_replace place other node files.nodes

/-- Directories stay, and so does what stands at the places that are kept. -/
structure Extends (kept : Place → Prop) (before after : FileSystem) : Prop where
  workdir : after.workdir = before.workdir
  nodes : ∀ place node, node = .directory ∨ kept place →
    before.at? place = some node → after.at? place = some node

namespace Extends

variable {kept : Place → Prop} {first second third : FileSystem}

theorem refl (files : FileSystem) : Extends kept files files :=
  ⟨rfl, fun _ _ _ found => found⟩

theorem trans (earlier : Extends kept first second)
    (later : Extends kept second third) : Extends kept first third where
  workdir := later.workdir.trans earlier.workdir
  nodes place node stays found :=
    later.nodes place node stays (earlier.nodes place node stays found)

theorem weaken {fewer : Place → Prop} (extended : Extends kept first second)
    (among : ∀ place, fewer place → kept place) :
    Extends fewer first second where
  workdir := extended.workdir
  nodes place node stays :=
    extended.nodes place node (stays.imp_right (among place))

/-- A node may be put where nothing stands, and where neither a directory stands
nor is anything kept. -/
theorem put {files : FileSystem} {place : Place} {node : Node}
    (free : files.at? place = none ∨ files.at? place ≠ some .directory ∧
      ¬ kept place) :
    Extends kept files (files.put place node) where
  workdir := rfl
  nodes other present stays found := by
    -- What has to stay stands elsewhere: here there is nothing yet, or nothing
    -- that has to.
    have apart : other ≠ place := by
      intro same
      subst same
      rcases free with absent | ⟨file, dropped⟩
      · rw [absent] at found
        cases found
      · rcases stays with rfl | stays
        · exact file found
        · exact dropped stays
    rw [at?_put]
    by_cases root : other = []
    · rw [if_pos root, ← found, at?, if_pos root]
    · rw [if_neg root, if_neg apart, found]

theorem follow {place found : Place} {names : List String}
    (extended : Extends kept first second)
    (followed : first.follow place names = .ok found) :
    second.follow place names = .ok found := by
  induction names generalizing place with
  | nil => exact followed
  | cons name names induction =>
      rw [FileSystem.follow] at followed ⊢
      split at followed
      · cases followed
      · rename_i directory
        rw [extended.nodes place .directory (.inl rfl) directory]
        split at followed
        · rw [if_pos ‹_›]
          exact induction followed
        · rw [if_neg ‹_›]
          split at followed
          · cases followed
          · rw [if_neg ‹_›]
            exact induction followed
      · cases followed

theorem locate {path : Path} {place : Place}
    (extended : Extends kept first second)
    (located : first.locate path = .ok place) :
    second.locate path = .ok place := by
  rw [FileSystem.locate] at located ⊢
  split at located
  · cases located
  · rw [if_neg ‹_›]
    split at located
    · cases located
    · rw [if_neg ‹_›, extended.workdir]
      exact extended.follow located

/-- What stands at a path stays there if it is a directory or kept. -/
theorem find {path : Path} {node : Node} (extended : Extends kept first second)
    (stays : node = .directory ∨ kept (placeOf first.workdir path))
    (found : first.find path = .ok node) : second.find path = .ok node := by
  obtain ⟨place, located, there⟩ := find_eq_ok found
  rw [← eq_placeOf_of_locate located] at stays
  rw [FileSystem.find, extended.locate located]
  simp only [extended.nodes place node stays there]

end Extends

/-! ## Directories -/

section Directories

variable {kept : Place → Prop} {files : FileSystem} {path : Path}

theorem extends_makeDirectory {made : FileSystem}
    (making : files.makeDirectory path = .ok made) :
    Extends kept files made := by
  rw [makeDirectory] at making
  split at making
  · cases making
  · rename_i place _
    cases absent : files.at? place with
    | some node => simp [absent] at making
    | none =>
        simp only [absent] at making
        split at making <;> cases making
        exact .put (.inl absent)

theorem extends_makeDirectories (depth : Nat) (path : Path) :
    Extends kept files (files.makeDirectories depth path).1 := by
  induction depth generalizing path with
  | zero =>
      unfold makeDirectories
      split
      · exact extends_makeDirectory ‹_›
      · exact .refl files
      · exact .refl files
  | succ depth induction =>
      unfold makeDirectories
      split
      · exact extends_makeDirectory ‹_›
      · have above := induction path.parent
        dsimp only
        split
        · rename_i made _ upper
          rwa [upper] at above
        · rename_i made upper
          rw [upper] at above
          split
          · exact above.trans (extends_makeDirectory ‹_›)
          · exact above
          · exact above
      · exact .refl files

theorem extends_ensureDirectory (files : FileSystem) (path : Path) :
    Extends kept files (files.ensureDirectory path).1 :=
  extends_makeDirectories path.names.length path

theorem isDirectory_of_find (found : files.find path = .ok .directory) :
    files.isDirectory path = .ok true := by
  rw [isDirectory, look, found]
  rfl

theorem find_of_isDirectory (there : files.isDirectory path = .ok true) :
    files.find path = .ok .directory := by
  rw [isDirectory, look] at there
  split at there
  · rename_i node found
    cases node with
    | directory => exact found
    | file data => cases there
    | history table => cases there
  · cases there
  · cases there

theorem find_of_makeDirectory {made : FileSystem}
    (making : files.makeDirectory path = .ok made) :
    made.find path = .ok .directory := by
  have extended : Extends (fun _ => True) files made :=
    extends_makeDirectory making
  rw [makeDirectory] at making
  split at making
  · cases making
  · rename_i place located
    cases absent : files.at? place with
    | some node => simp [absent] at making
    | none =>
        simp only [absent] at making
        split at making <;> cases making
        have there :
            (files.put place .directory).at? place = some .directory := by
          rw [at?_put]
          split <;> simp
        rw [find, extended.locate located]
        simp only [there]

theorem find_of_acceptDirectory {cause : FileCause}
    (accepted : files.acceptDirectory path cause = .ok ()) :
    files.find path = .ok .directory := by
  rw [acceptDirectory] at accepted
  split at accepted
  · cases accepted
  · split at accepted
    · cases accepted
    · exact find_of_isDirectory ‹_›
    · cases accepted

theorem find_of_makeDirectories {depth : Nat}
    (ensured : (files.makeDirectories depth path).2 = .ok ()) :
    (files.makeDirectories depth path).1.find path = .ok .directory := by
  unfold makeDirectories at ensured ⊢
  split at ensured
  · exact find_of_makeDirectory ‹_›
  · cases depth with
    | zero => cases ensured
    | succ depth =>
        dsimp only at ensured ⊢
        split at ensured
        · cases ensured
        · split at ensured
          · exact find_of_makeDirectory ‹_›
          · cases ensured
          · exact find_of_acceptDirectory ensured
  · exact find_of_acceptDirectory ensured

theorem find_of_ensureDirectory
    (ensured : (files.ensureDirectory path).2 = .ok ()) :
    (files.ensureDirectory path).1.find path = .ok .directory :=
  find_of_makeDirectories ensured

theorem makeDirectory_of_find (found : files.find path = .ok .directory) :
    files.makeDirectory path = .error .alreadyExists := by
  rw [find] at found
  rw [makeDirectory]
  split at found
  · cases found
  · rename_i place located
    cases there : files.at? place with
    | none => simp [there] at found
    | some node => rfl

theorem makeDirectories_of_find (depth : Nat)
    (found : files.find path = .ok .directory) :
    files.makeDirectories depth path = (files, .ok ()) := by
  have accepted : files.acceptDirectory path .alreadyExists = .ok () := by
    rw [acceptDirectory, isDirectory_of_find found]
    rfl
  unfold makeDirectories
  rw [makeDirectory_of_find found]
  simp only [accepted]

theorem ensureDirectory_of_find (found : files.find path = .ok .directory) :
    files.ensureDirectory path = (files, .ok ()) :=
  makeDirectories_of_find _ found

end Directories

/-! ## Files -/

section Files

variable {kept : Place → Prop} {files : FileSystem} {path : Path}

theorem filePlace_eq_ok_iff {place : Place} : files.filePlace path = .ok place ↔
    files.locate path = .ok place ∧ files.at? place.dropLast = some .directory ∧
      files.at? place ≠ some .directory := by
  constructor
  · intro free
    rw [filePlace] at free
    split at free
    · cases free
    · split at free <;> cases free
      exact ⟨‹_›, ‹_›, ‹_›⟩
  · rintro ⟨located, upper, file⟩
    rw [filePlace, located]
    dsimp only
    split
    · exact absurd ‹_› file
    · rfl
    · simp_all
    · simp_all

theorem filePlace_eq_ok {place : Place}
    (free : files.filePlace path = .ok place) :
    place = placeOf files.workdir path ∧ files.at? place ≠ some .directory := by
  obtain ⟨located, -, file⟩ := filePlace_eq_ok_iff.mp free
  exact ⟨eq_placeOf_of_locate located, file⟩

theorem locate_of_filePlace {place : Place}
    (free : files.filePlace path = .ok place) : files.locate path = .ok place :=
  (filePlace_eq_ok_iff.mp free).1

theorem follow_name {place : Place}
    (directory : files.at? place = some .directory) (name : String) :
    files.follow place [name] =
      if name = ".." then .ok place.dropLast
      else if nameLimit < name.utf8ByteSize then .error .nameTooLong
      else .ok (place ++ [name]) := by
  rw [follow, directory]
  rfl

/-- A name below a directory that stands leads to the same place at all
times. -/
theorem locate_child {later : FileSystem} (extended : Extends kept files later)
    (stands : files.find path = .ok .directory) (name : String) :
    later.locate (path.child name) = files.locate (path.child name) := by
  obtain ⟨above, located, directory⟩ := find_eq_ok stands
  have before := follow_append (follow_of_locate located) [name]
  have after :=
    follow_append (extended.follow (follow_of_locate located)) [name]
  rw [follow_name directory] at before
  rw [follow_name (extended.nodes above .directory (.inl rfl) directory)]
    at after
  rw [locate, locate, extended.workdir]
  exact congrArg _ (congrArg _ (after.trans before.symm))

theorem eq_append_of_locate_child {above place : Place} {name : String}
    (inside : name ≠ "..") (located : files.locate path = .ok above)
    (directory : files.at? above = some .directory)
    (below : files.locate (path.child name) = .ok place) :
    place = above ++ [name] := by
  have followed : files.follow (if path.isAbsolute then [] else files.workdir)
      (path.names ++ [name]) = .ok place := follow_of_locate below
  rw [follow_append (follow_of_locate located), follow_name directory,
    if_neg inside] at followed
  split at followed
  · cases followed
  · cases followed
    rfl

/-- What has a place below a directory that stands had it before, when less
stood in the way. -/
theorem filePlace_of_extends {later : FileSystem} {place : Place}
    {name : String} (extended : Extends kept files later)
    (stands : files.find path = .ok .directory) (inside : name ≠ "..")
    (free : later.filePlace (path.child name) = .ok place) :
    files.filePlace (path.child name) = .ok place := by
  obtain ⟨above, located, directory⟩ := find_eq_ok stands
  obtain ⟨below, -, file⟩ := filePlace_eq_ok_iff.mp free
  rw [locate_child extended stands] at below
  refine filePlace_eq_ok_iff.mpr ⟨below, ?_, fun blocked => ?_⟩
  · rw [eq_append_of_locate_child inside located directory below,
      List.dropLast_concat, directory]
  · exact file (extended.nodes place .directory (.inl rfl) blocked)

/-- A place for a file stays one as long as no directory stands there. -/
theorem filePlace_later {later : FileSystem} {place : Place}
    (extended : Extends kept files later)
    (free : files.filePlace path = .ok place)
    (file : later.at? place ≠ some .directory) :
    later.filePlace path = .ok place := by
  obtain ⟨located, upper, -⟩ := filePlace_eq_ok_iff.mp free
  exact filePlace_eq_ok_iff.mpr ⟨extended.locate located,
    extended.nodes _ _ (.inl rfl) upper, file⟩

theorem extends_connect (dropped : ¬ kept (placeOf files.workdir path)) :
    Extends kept files (History.connect files path).1 ∧
      ∀ place table, (History.connect files path).2 = .ok (place, table) →
        (History.connect files path).1.at? place ≠ some .directory ∧
          ¬ kept place := by
  have above : Extends kept files (files.ensureDirectory path.parent).1 :=
    extends_ensureDirectory files path.parent
  unfold History.connect
  rcases making : files.ensureDirectory path.parent
    with ⟨made, fault | done⟩ <;>
    rw [making] at above
  · exact ⟨above, by simp⟩
  · dsimp only
    cases free : made.filePlace path with
    | error fault => exact ⟨above, by simp⟩
    | ok place =>
        obtain ⟨here, file⟩ := filePlace_eq_ok free
        rw [above.workdir] at here
        rw [← here] at dropped
        have fresh : Extends kept made (made.put place (.history .empty)) ∧
            (made.put place (.history .empty)).at? place ≠ some .directory := by
          refine ⟨.put (.inr ⟨file, dropped⟩), ?_⟩
          have inside : place ≠ [] := by
            intro root
            subst root
            exact file rfl
          rw [at?_put, if_neg inside, if_pos rfl]
          simp
        dsimp only
        split
        · refine ⟨above, ?_⟩
          rintro _ _ ⟨⟩
          exact ⟨file, dropped⟩
        · exact ⟨above, by simp⟩
        · refine ⟨above.trans fresh.1, ?_⟩
          rintro _ _ ⟨⟩
          exact ⟨fresh.2, dropped⟩

theorem extends_record (dropped : ¬ kept (placeOf files.workdir path))
    (entry : History.Entry) :
    Extends kept files (History.record files path entry).1 := by
  obtain ⟨connected, free⟩ := extends_connect dropped
  unfold History.record
  rcases connecting : History.connect files path
    with ⟨made, fault | ⟨place, table⟩⟩ <;>
    rw [connecting] at connected free
  · exact connected
  · obtain ⟨file, dropped⟩ := free place table rfl
    dsimp only
    split
    · exact connected
    · exact connected.trans (.put (.inr ⟨file, dropped⟩))

end Files

end FileSystem

end PageFlow
