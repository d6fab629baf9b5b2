import PageFlow.Proofs.Files

/-!
# Ways

A path leads through directories, and making a directory makes those above it
that are missing. What could be made once can be made later on as well, as long
as nothing else was put on the way meanwhile.
-/

namespace PageFlow.FileSystem

variable {files later made above : FileSystem} {path : Path} {place : Place}
  {depth : Nat}

/-! ## The way to a place -/

/-- A place that a path leads to or through. -/
def OnWay (workdir : Place) (path : Path) (place : Place) : Prop :=
  ∃ names, names <+: path.names ∧
    destination (if path.isAbsolute then [] else workdir) names = place

theorem onWay_placeOf (workdir : Place) (path : Path) :
    OnWay workdir path (placeOf workdir path) :=
  ⟨path.names, List.prefix_rfl, rfl⟩

theorem OnWay.of_parent {workdir : Place}
    (onWay : OnWay workdir path.parent place) : OnWay workdir path place := by
  obtain ⟨names, before, leads⟩ := onWay
  exact ⟨names, before.trans (List.dropLast_prefix _), leads⟩

/-- A path may lead through a place: a directory stands there, or nothing
yet. -/
def Passable (files : FileSystem) (place : Place) : Prop :=
  files.at? place = none ∨ files.at? place = some .directory

theorem Passable.directory {node : Node} (passable : files.Passable place)
    (there : files.at? place = some node) : node = .directory := by
  rcases passable with absent | directory
  · cases absent.symm.trans there
  · cases directory.symm.trans there
    rfl

theorem directory_of_follow {found : Place} {names before : List String}
    (followed : files.follow place names = .ok found)
    (last : files.at? found = some .directory) (among : before <+: names) :
    files.at? (destination place before) = some .directory := by
  induction names generalizing place before with
  | nil =>
      cases followed
      cases List.prefix_nil.mp among
      exact last
  | cons name names induction =>
      have directory : files.at? place = some .directory := by
        rw [follow] at followed
        split at followed
        · cases followed
        · assumption
        · cases followed
      cases before with
      | nil => exact directory
      | cons first before =>
          obtain ⟨rfl, rest⟩ := List.cons_prefix_cons.mp among
          rw [follow, directory] at followed
          rw [destination]
          dsimp only at followed
          split at followed
          · rw [if_pos ‹_›]
            exact induction followed rest
          · rw [if_neg ‹_›]
            split at followed
            · cases followed
            · exact induction followed rest

theorem directory_onWay (found : files.find path = .ok .directory)
    (onWay : OnWay files.workdir path place) :
    files.at? place = some .directory := by
  obtain ⟨last, located, directory⟩ := find_eq_ok found
  obtain ⟨names, before, rfl⟩ := onWay
  exact directory_of_follow (follow_of_locate located) directory before

/-- On a way that may be passed nothing else goes wrong than that something is
missing. -/
theorem follow_of_passable {found : Place} {names : List String}
    (followed : files.follow place names = .ok found)
    (passable : ∀ before,
      before <+: names → later.Passable (destination place before)) :
    later.follow place names = .ok found ∨
      later.follow place names = .error .notFound := by
  induction names generalizing place with
  | nil => exact .inl followed
  | cons name names induction =>
      have rest (before : List String) (among : before <+: names) :
          later.Passable (destination place (name :: before)) :=
        passable _ (List.cons_prefix_cons.mpr ⟨rfl, among⟩)
      simp only [destination] at rest
      rw [follow] at followed ⊢
      rcases passable [] (List.nil_prefix) with absent | directory
      · simp only [destination] at absent
        rw [absent]
        exact .inr rfl
      · simp only [destination] at directory
        rw [directory]
        split at followed
        · cases followed
        · split at followed <;> rename_i upward
          · simp only [if_pos upward] at rest ⊢
            exact induction followed rest
          · simp only [if_neg upward] at rest ⊢
            split at followed
            · cases followed
            · rw [if_neg ‹_›]
              exact induction followed rest
        · cases followed

theorem locate_of_passable (located : files.locate path = .ok place)
    (same : later.workdir = files.workdir)
    (passable : ∀ other, OnWay files.workdir path other →
      later.Passable other) :
    later.locate path = .ok place ∨ later.locate path = .error .notFound := by
  have followed := follow_of_locate located
  have reached :=
    follow_of_passable followed fun before among =>
      passable _ ⟨before, among, rfl⟩
  rw [locate] at located ⊢
  split at located
  · cases located
  · rw [if_neg ‹_›]
    split at located
    · cases located
    · rw [if_neg ‹_›, same]
      exact reached

/-! ## Making directories -/

/-- A directory that was made on the way to a path, inside of another one. -/
structure MadeOnWay (path : Path) (before after : FileSystem) (place : Place) :
    Prop where
  absent : before.at? place = none
  onWay : OnWay before.workdir path place
  directory : after.at? place = some .directory
  inside : after.at? place.dropLast = some .directory

theorem MadeOnWay.extend (new : MadeOnWay path files above place)
    (extended : Extends (fun _ => False) above made) :
    MadeOnWay path files made place where
  absent := new.absent
  onWay := new.onWay
  directory := extended.nodes _ _ (.inl rfl) new.directory
  inside := extended.nodes _ _ (.inl rfl) new.inside

theorem makeDirectory_eq_ok (making : files.makeDirectory path = .ok made) :
    files.locate path = .ok (placeOf files.workdir path) ∧
      files.at? (placeOf files.workdir path) = none ∧
      files.at? (placeOf files.workdir path).dropLast = some .directory ∧
      made = files.put (placeOf files.workdir path) .directory := by
  rw [makeDirectory] at making
  split at making
  · cases making
  · rename_i place located
    cases eq_placeOf_of_locate located
    cases absent : files.at? (placeOf files.workdir path) with
    | some node => simp [absent] at making
    | none =>
        simp only [absent] at making
        split at making <;> cases making
        exact ⟨located, rfl, ‹_›, rfl⟩

theorem at?_makeDirectory (making : files.makeDirectory path = .ok made)
    (place : Place) :
    made.at? place = files.at? place ∨ MadeOnWay path files made place := by
  have extended : Extends (fun _ => False) files made :=
    extends_makeDirectory making
  obtain ⟨-, absent, upper, rfl⟩ := makeDirectory_eq_ok making
  by_cases here : place = placeOf files.workdir path
  · subst here
    have directory : (files.put (placeOf files.workdir path) .directory).at?
        (placeOf files.workdir path) = some .directory := by
      rw [at?_put]
      split <;> simp
    exact .inr ⟨absent, onWay_placeOf _ _, directory,
      extended.nodes _ _ (.inl rfl) upper⟩
  · refine .inl ?_
    rw [at?_put, if_neg here]
    split
    · rw [at?, if_pos ‹_›]
    · rfl

theorem at?_makeDirectories (depth : Nat) (path : Path) (place : Place) :
    (files.makeDirectories depth path).1.at? place = files.at? place ∨
      MadeOnWay path files (files.makeDirectories depth path).1 place := by
  induction depth generalizing path with
  | zero =>
      unfold makeDirectories
      split
      · exact at?_makeDirectory ‹_› place
      · exact .inl rfl
      · exact .inl rfl
  | succ depth induction =>
      have extended :
          Extends (fun _ => False) files
            (files.makeDirectories depth path.parent).1 :=
        extends_makeDirectories depth path.parent
      have upper : (files.makeDirectories depth path.parent).1.at? place =
          files.at? place ∨
          MadeOnWay path files (files.makeDirectories depth path.parent).1
            place :=
        (induction path.parent).imp_right fun new =>
          { new with onWay := new.onWay.of_parent }
      rcases making : files.makeDirectories depth path.parent
        with ⟨above, fault | _⟩ <;>
        rw [making] at upper extended <;> unfold makeDirectories <;> split
      · exact at?_makeDirectory ‹_› place
      · simp only [making]
        exact upper
      · exact .inl rfl
      · exact at?_makeDirectory ‹_› place
      · simp only [making]
        split
        · rename_i made last
          rcases upper with same | new
          · refine (at?_makeDirectory last place).imp (·.trans same) fun new =>
              ?_
            exact ⟨same.symm.trans new.absent, extended.workdir ▸ new.onWay,
              new.directory, new.inside⟩
          · exact .inr (new.extend (extends_makeDirectory last))
        · exact upper
        · exact upper
      · exact .inl rfl

/-- A directory is ensured at a path, with so many ones above it at most: it is
made, it stands there already, or those above it are ensured before. -/
inductive Ensures : FileSystem → Nat → Path → FileSystem → Prop
  | makes {files made : FileSystem} {depth : Nat} {path : Path}
      (making : files.makeDirectory path = .ok made) :
        Ensures files depth path made
  | stands {files : FileSystem} {depth : Nat} {path : Path}
      (found : files.find path = .ok .directory) :
        Ensures files depth path files
  | descends {files above made : FileSystem} {depth : Nat} {path : Path}
      (missing : files.makeDirectory path = .error .notFound)
      (upper : Ensures files depth path.parent above)
      (last : Ensures above 0 path made) :
      Ensures files (depth + 1) path made

theorem ensures_of_makeDirectories
    (ensured : files.makeDirectories depth path = (made, .ok ())) :
    Ensures files depth path made := by
  induction depth generalizing path made with
  | zero =>
      unfold makeDirectories at ensured
      split at ensured
      · cases ensured
        exact .makes ‹_›
      · cases ensured
      · obtain ⟨rfl, accepted⟩ := Prod.mk.inj ensured
        exact .stands (find_of_acceptDirectory accepted)
  | succ depth induction =>
      unfold makeDirectories at ensured
      split at ensured
      · cases ensured
        exact .makes ‹_›
      · rename_i missing
        dsimp only at ensured
        split at ensured
        · cases ensured
        · rename_i upper
          refine .descends missing (induction upper) ?_
          split at ensured
          · cases ensured
            exact .makes ‹_›
          · cases ensured
          · obtain ⟨rfl, accepted⟩ := Prod.mk.inj ensured
            exact .stands (find_of_acceptDirectory accepted)
      · obtain ⟨rfl, accepted⟩ := Prod.mk.inj ensured
        exact .stands (find_of_acceptDirectory accepted)

namespace Ensures

theorem makeDirectories (ensures : Ensures files depth path made) :
    files.makeDirectories depth path = (made, .ok ()) := by
  induction ensures with
  | makes making =>
      unfold FileSystem.makeDirectories
      rw [making]
  | stands found => exact makeDirectories_of_find _ found
  | descends missing _ last upper =>
      unfold FileSystem.makeDirectories
      rw [missing]
      simp only [upper]
      cases last with
      | makes making => rw [making]
      | stands found =>
          have accepted := congrArg Prod.snd (makeDirectories_of_find 0 found)
          unfold FileSystem.makeDirectories at accepted
          simp only [makeDirectory_of_find found] at accepted ⊢
          rw [accepted]

theorem found (ensures : Ensures files depth path made) :
    made.find path = .ok .directory := by
  have made := ensures.makeDirectories
  have standing : (files.makeDirectories depth path).2 = .ok () := by
    rw [made]
  have found := find_of_makeDirectories standing
  rwa [made] at found

theorem at? (ensures : Ensures files depth path made) (place : Place) :
    made.at? place = files.at? place ∨ MadeOnWay path files made place := by
  have changed :
      (files.makeDirectories depth path).1.at? place = files.at? place ∨
      MadeOnWay path files (files.makeDirectories depth path).1 place :=
    at?_makeDirectories depth path place
  rwa [ensures.makeDirectories] at changed

theorem extended (ensures : Ensures files depth path made) :
    Extends (fun _ => False) files made := by
  have extended :
      Extends (fun _ => False) files (files.makeDirectories depth path).1 :=
    extends_makeDirectories depth path
  rwa [ensures.makeDirectories] at extended

theorem passable (ensures : Ensures files depth path made)
    (onWay : OnWay files.workdir path place) : files.Passable place := by
  rcases ensures.at? place with same | new
  · have directory :=
      directory_onWay ensures.found (ensures.extended.workdir ▸ onWay)
    exact .inr (same.symm.trans directory)
  · exact .inl new.absent

/-- The directories that are there after one was ensured are there as well when
it is ensured later. -/
theorem extends_later {laterMade : FileSystem} {laterDepth : Nat}
    (ensures : Ensures files depth path made)
    (extended : Extends (fun _ => False) files later)
    (again : Ensures later laterDepth path laterMade) :
    Extends (fun _ => False) made laterMade where
  workdir :=
    again.extended.workdir.trans
      (extended.workdir.trans ensures.extended.workdir.symm)
  nodes place node stays there := by
    obtain rfl : node = .directory := stays.resolve_right id
    rcases ensures.at? place with same | new
    · exact (extended.trans again.extended).nodes _ _ (.inl rfl)
        (same.symm.trans there)
    · have workdir : laterMade.workdir = files.workdir :=
        again.extended.workdir.trans extended.workdir
      exact directory_onWay again.found (workdir ▸ new.onWay)

end Ensures

/-- On a way that may be passed a directory can be made, is missing others above
it, or stands already. -/
theorem find_of_makeDirectory_refused {cause : FileCause}
    (located : files.locate path = .ok place)
    (same : later.workdir = files.workdir)
    (passable : ∀ other, OnWay files.workdir path other → later.Passable other)
    (upper : later.at? place = some .directory ∨ later.Passable place.dropLast)
    (refused : later.makeDirectory path = .error cause) :
    cause = .notFound ∨ later.find path = .ok .directory := by
  rw [makeDirectory] at refused
  rcases locate_of_passable located same passable with reached | missing
  · have here : later.Passable place :=
      eq_placeOf_of_locate located ▸ passable _ (onWay_placeOf _ _)
    rw [reached] at refused
    rcases here with absent | directory
    · have upper := upper.resolve_left (by simp [absent])
      simp only [absent] at refused
      rcases upper with absent | directory
      · simp only [absent] at refused
        cases refused
        exact .inl rfl
      · simp [directory] at refused
    · refine .inr ?_
      rw [find, reached]
      simp only [directory]
  · rw [missing] at refused
    cases refused
    exact .inl rfl

theorem makeDirectory_of_locate (located : files.locate path = .ok place)
    (absent : files.at? place = none)
    (upper : files.at? place.dropLast = some .directory) :
    files.makeDirectory path = .ok (files.put place .directory) := by
  rw [makeDirectory, located]
  simp only [absent, upper]

/-- What was ensured once can be ensured later on a way that may be passed. -/
theorem Ensures.exists_later (ensures : Ensures files depth path made)
    (extended : Extends (fun _ => False) files later)
    (passable : ∀ other, OnWay files.workdir path other →
      later.Passable other) :
    ∃ laterMade, Ensures later depth path laterMade := by
  induction ensures generalizing later with
  | makes making =>
      obtain ⟨located, -, upper, -⟩ := makeDirectory_eq_ok making
      have located := extended.locate located
      rcases passable _ (onWay_placeOf _ _) with absent | directory
      · have upper := extended.nodes _ _ (.inl rfl) upper
        exact ⟨_, .makes (makeDirectory_of_locate located absent upper)⟩
      · refine ⟨_, .stands ?_⟩
        rw [find, located]
        simp only [directory]
  | stands found => exact ⟨_, .stands (extended.find (.inl rfl) found)⟩
  | @descends files above made depth path missing upper last inductionUpper
    inductionLast =>
      have workdir : above.workdir = files.workdir := upper.extended.workdir
      have transfer (other : Place)
          (directory : above.at? other = some .directory) :
          later.Passable other := by
        rcases upper.at? other with same | new
        · exact .inr (extended.nodes _ _ (.inl rfl) (same.symm.trans directory))
        · exact passable _ new.onWay.of_parent
      -- Below a directory the path leads to its place. The directory above it
      -- may be one of the new ones.
      obtain ⟨place, located, inside⟩ : ∃ place, above.locate path = .ok place ∧
          (later.at? place = some .directory ∨
            later.Passable place.dropLast) := by
        cases last with
        | makes making =>
            obtain ⟨located, -, inside, -⟩ := makeDirectory_eq_ok making
            exact ⟨_, located, .inr (transfer _ inside)⟩
        | stands found =>
            obtain ⟨place, located, directory⟩ := find_eq_ok found
            refine ⟨place, located, ?_⟩
            rcases upper.at? place with same | new
            · exact .inl
                (extended.nodes _ _ (.inl rfl) (same.symm.trans directory))
            · exact .inr (transfer _ new.inside)
      rcases making : later.makeDirectory path with cause | laterMade
      · rcases find_of_makeDirectory_refused located
          (extended.workdir.trans workdir.symm)
          (workdir ▸ passable) inside making with rfl | found
        · obtain ⟨laterAbove, again⟩ :=
            inductionUpper extended fun other onWay =>
              passable other onWay.of_parent
          have below (other : Place) (onWay : OnWay above.workdir path other) :
              laterAbove.Passable other := by
            rcases again.at? other with same | new
            · have before := passable other (workdir ▸ onWay)
              rwa [Passable, ← same] at before
            · exact .inr new.directory
          obtain ⟨laterMade, done⟩ :=
            inductionLast (upper.extends_later extended again) below
          exact ⟨laterMade, .descends making again done⟩
        · exact ⟨_, .stands found⟩
      · exact ⟨laterMade, .makes making⟩

/-! ## Changes beside the way -/

/-- Directories stay, and so does what stands at the places that are kept. Where
nothing stands at such a place only a directory is made. -/
structure Widens (kept : Place → Prop) (before after : FileSystem) : Prop
    extends Extends kept before after where
  absent : ∀ place, kept place → before.at? place = none → after.Passable place

section Widening

variable {kept : Place → Prop} {data : List UInt8}

theorem Widens.refl (files : FileSystem) : Widens kept files files where
  toExtends := .refl files
  absent _ _ absent := .inl absent

theorem widens_ensureDirectory (files : FileSystem) (path : Path) :
    Widens kept files (files.ensureDirectory path).1 where
  toExtends := extends_ensureDirectory files path
  absent place _ absent := by
    rcases at?_makeDirectories path.names.length path place with same | new
    · exact .inl (same.trans absent)
    · exact .inr new.directory

theorem widens_put {node : Node} (file : files.at? place ≠ some .directory)
    (dropped : ¬ kept place) :
    Widens kept files (files.put place node) where
  toExtends := .put (.inr ⟨file, dropped⟩)
  absent other stays absent := by
    have apart : other ≠ place := fun same => dropped (same ▸ stays)
    refine .inl ?_
    rw [at?_put, if_neg apart, absent]
    split
    · subst other
      cases absent
    · rfl

theorem widens_write (dropped : ¬ kept (placeOf files.workdir path))
    (writing : files.write path data = .ok later) :
    Widens kept files later := by
  rw [write] at writing
  split at writing
  · cases writing
  · rename_i place free
    cases writing
    obtain ⟨rfl, file⟩ := filePlace_eq_ok free
    exact widens_put file dropped

theorem widens_append (dropped : ¬ kept (placeOf files.workdir path))
    (writing : files.append path data = .ok later) :
    Widens kept files later := by
  rw [append] at writing
  split at writing
  · cases writing
  · rename_i place free
    obtain ⟨rfl, file⟩ := filePlace_eq_ok free
    split at writing <;> cases writing <;> exact widens_put file dropped

end Widening

end PageFlow.FileSystem
