import PageFlow.Calendar
import PageFlow.Proofs.Ways

/-!
# The history as a ledger

A history is a list of entries to which more are added at the end, and of which
the latest are listed. What is asked of it goes to the file each time, which is
opened again and may be missing before; the answers are those of the list.
-/

namespace PageFlow.History

/-! ## Entries and their listing -/

/-- An entry that a table takes: its names are given and its integers fit into
64 bits. -/
structure Entry.Storable (entry : Entry) : Prop where
  flowName : entry.flowName ≠ none
  baseUrl : entry.baseUrl ≠ none
  integers : ∀ n ∈ entry.integers,
    -9223372036854775808 ≤ n ∧ n < 9223372036854775808

theorem fits_iff {n : Int} :
    fits n = true ↔ -9223372036854775808 ≤ n ∧ n < 9223372036854775808 := by
  simp [fits]

theorem Entry.refusal?_eq_none_iff {entry : Entry} :
    entry.refusal? = none ↔ entry.Storable := by
  have sizes : entry.integers.all fits = true ↔
      ∀ n ∈ entry.integers,
        -9223372036854775808 ≤ n ∧ n < 9223372036854775808 := by
    simp only [List.all_eq_true, fits_iff]
  rw [refusal?]
  constructor
  · intro taken
    split at taken
    · cases taken
    · split at taken
      · cases taken
      · split at taken
        · cases taken
        · exact ⟨by simp_all, by simp_all, sizes.mp (by simp_all)⟩
  · rintro ⟨flowName, baseUrl, integers⟩
    simp [sizes.mpr integers, flowName, baseUrl]

instance (entry : Entry) : Decidable entry.Storable :=
  decidable_of_iff (entry.refusal? = none) Entry.refusal?_eq_none_iff

def numbered (entries : List Entry) : List Row :=
  entries.mapIdx fun index entry => ⟨index + 1, entry⟩

theorem numbered_concat (entries : List Entry) (entry : Entry) :
    numbered (entries ++ [entry]) =
      numbered entries ++ [⟨entries.length + 1, entry⟩] :=
  List.mapIdx_concat

theorem length_numbered (entries : List Entry) :
    (numbered entries).length = entries.length :=
  List.length_mapIdx

theorem pairwise_numbered (entries : List Entry) :
    (numbered entries).Pairwise fun a b => a.id < b.id := by
  rw [List.pairwise_iff_getElem]
  intro i j _ _ before
  simpa [numbered] using before

/-- A row that is listed before another one: its time is later, a missing one
being before all texts, or it is the same and its number is higher. -/
def Row.ListedBefore (a b : Row) : Prop :=
  b.entry.createdAt < a.entry.createdAt ∨
    a.entry.createdAt = b.entry.createdAt ∧ b.id < a.id

/-- The listing of some entries: all of their rows, in the order in which they
are listed. -/
structure Lists (entries : List Entry) (rows : List Row) : Prop where
  perm : rows.Perm (numbered entries)
  ordered : rows.Pairwise Row.ListedBefore

theorem Row.ListedBefore.asymm {a b : Row} (before : a.ListedBefore b) :
    ¬ b.ListedBefore a := by
  have irrefl : ∀ time : Option String, ¬ time < time := by
    rintro (_ | text)
    · exact not_false
    · exact String.lt_irrefl text
  have trans : ∀ {early late : Option String},
      early < late → ¬ late < early := by
    rintro (_ | early) (_ | late) first second
    · exact first
    · exact second
    · exact first
    · exact String.lt_irrefl _ (String.lt_trans first second)
  rintro (earlier | ⟨same, lower⟩)
  · rcases before with later | ⟨same, _⟩
    · exact trans earlier later
    · exact irrefl _ (same ▸ earlier)
  · rcases before with later | ⟨_, higher⟩
    · exact irrefl _ (same ▸ later)
    · exact Nat.lt_asymm lower higher

theorem Lists.unique {entries : List Entry} {rows others : List Row}
    (first : Lists entries rows) (second : Lists entries others) :
    rows = others :=
  (first.perm.trans second.perm.symm).eq_of_pairwise
    (fun _ _ _ _ before after => absurd after before.asymm) first.ordered
    second.ordered

theorem lists_reverse {entries : List Entry}
    (timely : entries.Pairwise fun a b => a.createdAt = b.createdAt ∨
      a.createdAt < b.createdAt) :
    Lists entries (numbered entries).reverse where
  perm := List.reverse_perm _
  ordered := by
    rw [List.pairwise_reverse, List.pairwise_iff_getElem]
    intro i j first second before
    simp only [numbered, List.getElem_mapIdx]
    rcases List.pairwise_iff_getElem.mp timely i j _ _ before
      with same | earlier
    · exact .inr ⟨same.symm, Nat.succ_lt_succ before⟩
    · exact .inl earlier

namespace Table

theorem timeLe_total (a b : Option String) :
    timeLe a b = true ∨ timeLe b a = true := by
  rcases a with _ | a <;> rcases b with _ | b <;> simp [timeLe, String.le_total]

theorem timeLe_trans {a b c : Option String} (first : timeLe a b = true)
    (second : timeLe b c = true) : timeLe a c = true := by
  rcases a with _ | a <;> rcases b with _ | b <;> rcases c with _ | c <;>
    simp_all [timeLe]
  exact String.le_trans first second

theorem timeLe_antisymm {a b : Option String} (first : timeLe a b = true)
    (second : timeLe b a = true) : a = b := by
  rcases a with _ | a <;> rcases b with _ | b <;> simp_all [timeLe]
  exact String.le_antisymm first second

theorem lt_of_timeLe {a b : Option String} (atMost : timeLe a b = true)
    (differ : a ≠ b) : a < b := by
  rcases a with _ | a <;> rcases b with _ | b
  · exact absurd rfl differ
  · trivial
  · cases atMost
  · have atMost : a ≤ b := of_decide_eq_true atMost
    exact String.not_le.mp fun atLeast =>
      differ (congrArg some (String.le_antisymm atMost atLeast))

theorem listedBefore_iff {a b : Row} : listedBefore a b = true ↔
    timeLe b.entry.createdAt a.entry.createdAt = true ∧
      (timeLe a.entry.createdAt b.entry.createdAt = true → b.id ≤ a.id) := by
  unfold listedBefore
  by_cases same : a.entry.createdAt = b.entry.createdAt
  · have reflexive : timeLe b.entry.createdAt b.entry.createdAt = true :=
      (timeLe_total _ _).elim id id
    simp [same, reflexive]
  · rw [if_neg same]
    exact ⟨fun later =>
      ⟨later, fun earlier => absurd (timeLe_antisymm earlier later) same⟩,
      And.left⟩

theorem listedBefore_total (a b : Row) :
    (listedBefore a b || listedBefore b a) = true := by
  unfold listedBefore
  by_cases same : a.entry.createdAt = b.entry.createdAt
  · simpa [same] using Nat.le_total b.id a.id
  · simpa [same, Ne.symm same]
      using timeLe_total b.entry.createdAt a.entry.createdAt

theorem listedBefore_trans (a b c : Row) (first : listedBefore a b = true)
    (second : listedBefore b c = true) : listedBefore a c = true := by
  obtain ⟨first, upper⟩ := listedBefore_iff.mp first
  obtain ⟨second, lower⟩ := listedBefore_iff.mp second
  refine listedBefore_iff.mpr ⟨timeLe_trans second first, fun same => ?_⟩
  exact Nat.le_trans (lower (timeLe_trans first same))
    (upper (timeLe_trans same second))

theorem listedBefore_of_ne {a b : Row} (before : listedBefore a b = true)
    (differ : a.id ≠ b.id) : a.ListedBefore b := by
  obtain ⟨atMost, among⟩ := listedBefore_iff.mp before
  by_cases same : b.entry.createdAt = a.entry.createdAt
  · rw [same] at atMost among
    exact .inr ⟨same.symm, Nat.lt_of_le_of_ne (among atMost) (Ne.symm differ)⟩
  · exact .inl (lt_of_timeLe atMost same)

def of (entries : List Entry) : Table :=
  ⟨numbered entries⟩

theorem lists_latestFirst (entries : List Entry) :
    Lists entries (of entries).latestFirst := by
  have perm : (of entries).latestFirst.Perm (numbered entries) :=
    List.mergeSort_perm _ _
  have differ : (of entries).latestFirst.Pairwise fun a b => a.id ≠ b.id :=
    ((pairwise_numbered entries).imp Nat.ne_of_lt).perm perm.symm Ne.symm
  have sorted :=
    List.pairwise_mergeSort listedBefore_trans listedBefore_total
      (numbered entries)
  exact ⟨perm, (sorted.and differ).imp fun both =>
    listedBefore_of_ne both.1 both.2⟩

theorem insert_of_storable {entry : Entry} (storable : entry.Storable)
    (entries : List Entry) :
    (of entries).insert entry =
      .ok (entries.length + 1, of (entries ++ [entry])) := by
  rw [insert, Entry.refusal?_eq_none_iff.mpr storable, of, of, numbered_concat,
    length_numbered]

theorem recent_of_lists {entries : List Entry} {rows : List Row}
    (lists : Lists entries rows) (limit : Int) : (of entries).recent limit =
      if limit < 9223372036854775808 then .ok (rows.take limit.toNat)
        else .error .integerSize := by
  have size : fits (max 0 limit) = true ↔ limit < 9223372036854775808 := by
    rw [fits_iff]
    omega
  rw [recent, (lists_latestFirst entries).unique lists]
  by_cases small : limit < 9223372036854775808
  · rw [if_pos small, if_pos (size.mpr small)]
  · rw [if_neg small, if_neg (mt size.mp small)]

end Table

/-! ## Opening -/

/-- What opening a history comes to once its directory is there: the table that
stands in the file, or else an empty one that is put there if the file is empty
or missing. -/
inductive Opening (made : FileSystem) (place : Place) :
    FileSystem → Table → Prop
  | stands {table : Table} (there : made.at? place = some (.history table)) :
      Opening made place made table
  | fresh (empty : made.at? place = none ∨ made.at? place = some (.file [])) :
      Opening made place (made.put place (.history .empty)) .empty

section Opening

variable {files later opened : FileSystem} {path : Path} {place : Place}
  {table : Table}

theorem connect_eq_ok_iff : connect files path = (opened, .ok (place, table)) ↔
    ∃ made, files.ensureDirectory path.parent = (made, .ok ()) ∧
      made.filePlace path = .ok place ∧ Opening made place opened table := by
  constructor
  · intro connected
    rw [connect] at connected
    rcases making : files.ensureDirectory path.parent with ⟨made, fault | _⟩ <;>
      simp only [making] at connected
    · cases connected
    · refine ⟨made, rfl, ?_⟩
      cases free : made.filePlace path with
      | error fault => simp [free] at connected
      | ok found =>
          obtain ⟨-, -, file⟩ := FileSystem.filePlace_eq_ok_iff.mp free
          simp only [free] at connected
          split at connected
          · cases connected
            exact ⟨rfl, .stands ‹_›⟩
          · cases connected
          · rename_i unlisted full
            cases connected
            refine ⟨rfl, .fresh ?_⟩
            rcases there : made.at? place
              with _ | (_ | (_ | ⟨byte, data⟩) | held)
            · exact .inl rfl
            · exact absurd there file
            · exact .inr rfl
            · exact absurd there (full byte data)
            · exact absurd there (unlisted held)
  · rintro ⟨made, making, free, opening⟩
    cases opening with
    | stands there => simp only [connect, making, free, there]
    | fresh empty =>
        rcases empty with absent | blank
        · simp only [connect, making, free, absent]
        · simp only [connect, making, free, blank]

theorem place_of_connect
    (connected : connect files path = (opened, .ok (place, table))) :
    place = FileSystem.placeOf files.workdir path := by
  obtain ⟨made, making, free, -⟩ := connect_eq_ok_iff.mp connected
  rw [(FileSystem.filePlace_eq_ok free).1,
    (FileSystem.ensures_of_makeDirectories making).extended.workdir]

/-- A history that can be opened can be opened later, with the same rows, as
long as nothing was written on the way to its file and no directory stands in
its place. -/
theorem connect_later
    (connected : connect files path = (opened, .ok (place, table)))
    (widened : FileSystem.Widens (FileSystem.OnWay files.workdir path)
      files later) (file : later.at? place ≠ some .directory) :
    ∃ reopened, connect later path = (reopened, .ok (place, table)) := by
  obtain ⟨made, making, free, opening⟩ := connect_eq_ok_iff.mp connected
  have ensures := FileSystem.ensures_of_makeDirectories making
  have extended : FileSystem.Extends (fun _ => False) files later :=
    widened.toExtends.weaken nofun
  obtain ⟨laterMade, again⟩ :=
    ensures.exists_later extended fun other onWay => by
    rcases ensures.passable onWay with absent | directory
    · exact widened.absent other onWay.of_parent absent
    · exact .inr (extended.nodes _ _ (.inl rfl) directory)
  -- The place of the file is not on the way to its own directory, so opening
  -- makes nothing there.
  have apart : ¬ FileSystem.OnWay files.workdir path.parent place := by
    intro onWay
    obtain ⟨-, -, file⟩ := FileSystem.filePlace_eq_ok_iff.mp free
    exact file (FileSystem.directory_onWay ensures.found
      (ensures.extended.workdir ▸ onWay))
  have before : made.at? place = files.at? place :=
    (ensures.at? place).resolve_right fun new => apart new.onWay
  have after : laterMade.at? place = later.at? place :=
    (again.at? place).resolve_right fun new =>
      apart (extended.workdir ▸ new.onWay)
  have onWay : FileSystem.OnWay files.workdir path place :=
    place_of_connect connected ▸ FileSystem.onWay_placeOf _ _
  have kept : ∀ node, made.at? place = some node →
      laterMade.at? place = some node := by
    rw [before, after]
    exact fun node => widened.nodes place node (.inr onWay)
  have remade : later.ensureDirectory path.parent = (laterMade, .ok ()) :=
    again.makeDirectories
  have laterFree : laterMade.filePlace path = .ok place :=
    FileSystem.filePlace_later (ensures.extends_later extended again) free
      (after ▸ file)
  cases opening with
  | stands there =>
      exact ⟨_, connect_eq_ok_iff.mpr ⟨laterMade, remade, laterFree,
        .stands (kept _ there)⟩⟩
  | fresh empty =>
      refine ⟨_, connect_eq_ok_iff.mpr ⟨laterMade, remade, laterFree,
        .fresh (empty.imp ?_ (kept _))⟩⟩
      rw [before, after]
      exact fun absent => (widened.absent place onWay absent).resolve_right file

end Opening

/-! ## Tables that stand -/

structure Stands (files : FileSystem) (path : Path) (place : Place)
    (table : Table) : Prop where
  directory : files.find path.parent = .ok .directory
  free : files.filePlace path = .ok place
  there : files.at? place = some (.history table)

section Standing

variable {files later : FileSystem} {path : Path} {place : Place}
  {table other : Table}

theorem Stands.inside (stands : Stands files path place table) :
    place ≠ [] := by
  rintro rfl
  cases stands.there

theorem Stands.connect (stands : Stands files path place table) :
    History.connect files path = (files, .ok (place, table)) := by
  simp only [History.connect,
    FileSystem.ensureDirectory_of_find stands.directory, stands.free,
    stands.there]

/-- Paths go on leading to the same place, so that it is up to what is there. -/
theorem Stands.of_extends (stands : Stands files path place table)
    (extended : FileSystem.Extends (fun _ => False) files later)
    (there : later.at? place = some (.history other)) :
    Stands later path place other where
  directory := extended.find (.inl rfl) stands.directory
  free := FileSystem.filePlace_later extended stands.free (by simp [there])
  there := there

theorem Stands.put (stands : Stands files path place table) (other : Table) :
    Stands (files.put place (.history other)) path place other := by
  refine stands.of_extends (.put (.inr ⟨?_, not_false⟩)) ?_
  · simp [stands.there]
  · rw [FileSystem.at?_put, if_neg stands.inside, if_pos rfl]

theorem stands_of_connect {opened : FileSystem}
    (connected : History.connect files path = (opened, .ok (place, table))) :
    Stands opened path place table := by
  obtain ⟨made, making, free, opening⟩ := connect_eq_ok_iff.mp connected
  have directory := (FileSystem.ensures_of_makeDirectories making).found
  cases opening with
  | stands there => exact ⟨directory, free, there⟩
  | fresh empty =>
      obtain ⟨-, -, file⟩ := FileSystem.filePlace_eq_ok_iff.mp free
      have inside : place ≠ [] := fun root => file (root ▸ rfl)
      have there : (made.put place (.history .empty)).at? place =
          some (.history .empty) := by
        rw [FileSystem.at?_put, if_neg inside, if_pos rfl]
      have extended : FileSystem.Extends (fun _ => False) made
          (made.put place (.history .empty)) := .put (.inr ⟨file, not_false⟩)
      exact ⟨extended.find (.inl rfl) directory,
        FileSystem.filePlace_later extended free (by simp [there]), there⟩

end Standing

section Entries

variable {files opened : FileSystem} {path : Path} {place : Place}
  {entries : List Entry}

theorem record_of_storable
    (connected : connect files path = (opened, .ok (place, .of entries)))
    {entry : Entry} (storable : entry.Storable) :
    record files path entry =
      (opened.put place (.history (.of (entries ++ [entry]))),
        .ok (entries.length + 1)) := by
  simp only [record, connected, Table.insert_of_storable storable]

theorem connect_record
    (connected : connect files path = (opened, .ok (place, .of entries)))
    {entry : Entry} (storable : entry.Storable) :
    ∃ reopened, connect (record files path entry).1 path =
      (reopened, .ok (place, .of (entries ++ [entry]))) := by
  rw [record_of_storable connected storable]
  exact ⟨_, ((stands_of_connect connected).put _).connect⟩

theorem recent_of_connect
    (connected : connect files path = (opened, .ok (place, .of entries)))
    {rows : List Row} (lists : Lists entries rows) (limit : Int) :
    recent files path limit =
      (opened, if limit < 9223372036854775808 then .ok (rows.take limit.toNat)
        else .error (.refused .integerSize)) := by
  simp only [recent, connected, Table.recent_of_lists lists]
  split <;> rfl

end Entries

/-! ## Operations -/

/-- What is asked of a history: to add an entry, to add one with the time of a
moment, for the latest rows, or to open the file once more. -/
inductive Operation where
  | record (entry : Entry)
  | recordNow (moment : Int) (entry : Entry)
  | recent (limit : Int)
  | reopen
  deriving DecidableEq, Repr

inductive Answer where
  | number (id : Nat)
  | listing (rows : List Row)
  | fault (fault : Fault)
  | opened
  deriving DecidableEq, Repr

def Answer.number? : Answer → Option Nat
  | .number id => some id
  | _ => none

/-- What has come of a question, as an answer. -/
def Answer.of {α : Type} (answer : α → Answer)
    (came : FileSystem × Except Fault α) : FileSystem × Answer :=
  match came with
  | (files, .ok value) => (files, answer value)
  | (files, .error cause) => (files, .fault cause)

def Entry.stamped (entry : Entry) (moment : Int) : Entry :=
  { entry with
    createdAt := some (Calendar.stampText (Calendar.ofMoment moment)) }

namespace Operation

def entry? : Operation → Option Entry
  | record entry => some entry
  | recordNow moment entry => some (entry.stamped moment)
  | _ => none

/-- Asks the history at a path. A history that is opened touches its file with
the next question only. -/
def perform (path : Path) (files : FileSystem) : Operation → FileSystem × Answer
  | record entry => Answer.of .number (History.record files path entry)
  | recordNow moment entry =>
      Answer.of .number (History.record files path (entry.stamped moment))
  | recent limit => Answer.of .listing (History.recent files path limit)
  | reopen => (files, .opened)

/-- Asks one thing after the other. -/
def performAll (path : Path) :
    List Operation → FileSystem → FileSystem × List Answer
  | [], files => (files, [])
  | operation :: operations, files =>
    let (next, answer) := operation.perform path files
    let (last, answers) := performAll path operations next
    (last, answer :: answers)

/-- An operation on a list of entries, with its answer and the list
afterwards. -/
inductive Serves (entries : List Entry) :
    Operation → Answer → List Entry → Prop where
  | stored {operation : Operation} {entry : Entry}
      (adds : operation.entry? = some entry)
      (storable : entry.Storable) :
      Serves entries operation (.number (entries.length + 1))
      (entries ++ [entry])
  | refused {operation : Operation} {entry : Entry} {refusal : Refusal}
      (adds : operation.entry? = some entry) (unfit : ¬ entry.Storable)
      (refused : entry.refusal? = some refusal) :
      Serves entries operation (.fault (.refused refusal)) entries
  | listed {limit : Int} {rows : List Row} (small : limit < 9223372036854775808)
      (lists : Lists entries rows) :
      Serves entries (recent limit) (.listing (rows.take limit.toNat)) entries
  | oversized {limit : Int} (large : 9223372036854775808 ≤ limit) :
      Serves entries (recent limit) (.fault (.refused .integerSize)) entries
  | reopened : Serves entries reopen .opened entries

inductive ServesAll :
    List Entry → List Operation → List Answer → List Entry → Prop where
  | nil (entries : List Entry) : ServesAll entries [] [] entries
  | cons {first next last : List Entry} {operation : Operation}
      {operations : List Operation}
      {answer : Answer} {answers : List Answer}
      (now : Serves first operation answer next)
      (later : ServesAll next operations answers last) :
      ServesAll first (operation :: operations) (answer :: answers) last

theorem Serves.unique {entries first second : List Entry}
    {operation : Operation} {answer other : Answer}
    (one : Serves entries operation answer first)
    (two : Serves entries operation other second) :
    answer = other ∧ first = second := by
  cases one with
  | stored adds storable =>
      cases two with
      | stored again =>
          cases adds.symm.trans again
          exact ⟨rfl, rfl⟩
      | refused again unfit =>
          cases adds.symm.trans again
          exact absurd storable unfit
      | listed | oversized | reopened => cases adds
  | refused adds unfit refused =>
      cases two with
      | stored again storable =>
          cases adds.symm.trans again
          exact absurd storable unfit
      | refused again _ too =>
          cases adds.symm.trans again
          cases refused.symm.trans too
          exact ⟨rfl, rfl⟩
      | listed | oversized | reopened => cases adds
  | listed small lists =>
      cases two with
      | listed _ others => exact ⟨lists.unique others ▸ rfl, rfl⟩
      | oversized large => omega
      | stored adds | refused adds => cases adds
  | oversized large =>
      cases two with
      | listed small => omega
      | oversized => exact ⟨rfl, rfl⟩
      | stored adds | refused adds => cases adds
  | reopened =>
      cases two with
      | reopened => exact ⟨rfl, rfl⟩
      | stored adds | refused adds => cases adds

theorem ServesAll.unique {entries first second : List Entry}
    {operations : List Operation} {answers others : List Answer}
    (one : ServesAll entries operations answers first)
    (two : ServesAll entries operations others second) :
    answers = others ∧ first = second := by
  induction one generalizing others with
  | nil entries =>
      cases two
      exact ⟨rfl, rfl⟩
  | cons now later induction =>
      cases two with
      | cons same rest =>
          obtain ⟨rfl, rfl⟩ := now.unique same
          obtain ⟨rfl, rfl⟩ := induction rest
          exact ⟨rfl, rfl⟩

/-- What is added are the entries that can be stored, and their numbers follow
one another. -/
theorem ServesAll.added {first last : List Entry} {operations : List Operation}
    {answers : List Answer} (serves : ServesAll first operations answers last) :
    let added :=
      (operations.filterMap entry?).filter fun entry => entry.Storable
    last = first ++ added ∧
      answers.filterMap Answer.number? =
        List.range' (first.length + 1) added.length := by
  induction serves with
  | nil entries => exact ⟨(List.append_nil entries).symm, rfl⟩
  | cons now later induction =>
      obtain ⟨last, numbers⟩ := induction
      cases now with
      | stored adds storable =>
          rw [List.length_append] at numbers
          simp [last, numbers, adds, storable, Answer.number?, List.range'_succ]
      | refused adds unfit =>
          simp [last, numbers, adds, unfit, List.filterMap_cons, Answer.number?]
      | listed | oversized | reopened =>
          simp [last, numbers, List.filterMap_cons, entry?, Answer.number?]

section Performing

variable {files opened : FileSystem} {path : Path} {place : Place}
  {entries : List Entry}

theorem serves_insert
    (connected : History.connect files path =
      (opened, .ok (place, .of entries))) {operation : Operation}
    {entry : Entry} (adds : operation.entry? = some entry) :
    let came := Answer.of .number (History.record files path entry)
    ∃ next, Serves entries operation came.2 next ∧
      ∃ reopened,
        History.connect came.1 path = (reopened, .ok (place, .of next)) := by
  have stands := stands_of_connect connected
  rcases judged : entry.refusal? with _ | refusal
  · have storable := Entry.refusal?_eq_none_iff.mp judged
    have kept := connect_record connected storable
    rw [record_of_storable connected storable] at kept ⊢
    exact ⟨_, .stored adds storable, kept⟩
  · have unfit : ¬ entry.Storable := by
      simp [← Entry.refusal?_eq_none_iff, judged]
    have recorded :
        History.record files path entry =
          (opened, .error (.refused refusal)) := by
      simp only [History.record, connected, Table.insert, judged]
    rw [recorded]
    exact ⟨_, .refused adds unfit judged, _, stands.connect⟩

/-- An operation on the file is one on the list of entries. -/
theorem serves_perform
    (connected : History.connect files path =
      (opened, .ok (place, .of entries))) (operation : Operation) :
    let came := operation.perform path files
    ∃ next, Serves entries operation came.2 next ∧
      ∃ reopened,
        History.connect came.1 path = (reopened, .ok (place, .of next)) := by
  cases operation with
  | record entry =>
      have adds : entry? (record entry) = some entry := rfl
      exact serves_insert connected adds
  | recordNow moment entry =>
      have adds :
          entry? (recordNow moment entry) = some (entry.stamped moment) :=
        rfl
      exact serves_insert connected adds
  | recent limit =>
      have stands := stands_of_connect connected
      have lists := Table.lists_latestFirst entries
      simp only [perform, recent_of_connect connected lists]
      by_cases small : limit < 9223372036854775808
      · rw [if_pos small]
        exact ⟨_, .listed small lists, _, stands.connect⟩
      · rw [if_neg small]
        exact ⟨_, .oversized (by omega), _, stands.connect⟩
  | reopen => exact ⟨_, .reopened, _, connected⟩

theorem servesAll_performAll (operations : List Operation)
    (connected : History.connect files path =
      (opened, .ok (place, .of entries))) :
    let came := performAll path operations files
    ∃ last, ServesAll entries operations came.2 last ∧
      ∃ reopened,
        History.connect came.1 path = (reopened, .ok (place, .of last)) := by
  induction operations generalizing files opened entries with
  | nil => exact ⟨_, .nil entries, _, connected⟩
  | cons operation operations induction =>
      obtain ⟨next, now, _, connected⟩ := serves_perform connected operation
      obtain ⟨last, later, kept⟩ := induction connected
      exact ⟨last, .cons now later, kept⟩

end Performing

end Operation

open Operation

/-- A history that is empty at first answers like a list to which the entries
that can be stored are added. Their rows are numbered from one, nothing else
that is asked changes the list, and it stands in the file for whoever opens it
next. -/
theorem history_refines_list {files opened : FileSystem} {path : Path}
    {place : Place}
    (fresh : History.connect files path = (opened, .ok (place, .empty)))
    (operations : List Operation) :
    let came := performAll path operations files
    let stored :=
      (operations.filterMap entry?).filter fun entry => entry.Storable
    ServesAll [] operations came.2 stored ∧
      came.2.filterMap Answer.number? = List.range' 1 stored.length ∧
      ∃ reopened,
        History.connect came.1 path = (reopened, .ok (place, .of stored)) := by
  intro came stored
  obtain ⟨last, serves, kept⟩ : ∃ last, ServesAll [] operations came.2 last ∧
      ∃ reopened,
        History.connect came.1 path = (reopened, .ok (place, .of last)) :=
    servesAll_performAll operations fresh
  obtain ⟨rfl, numbers⟩ := serves.added
  exact ⟨serves, numbers, kept⟩

private def runs : Path :=
  ⟨.root, ["runs.db"]⟩

private theorem connect_runs : History.connect ⟨[], []⟩ runs =
    (⟨[(["runs.db"], .history .empty)], []⟩, .ok (["runs.db"], .empty)) := by
  rfl

private def passing (flowName : Option String) (createdAt : String) : Entry :=
  ⟨flowName, some "", some 1, some 0, some 1, some 5, some createdAt⟩

/-- An entry without a name is refused between two that are stored, and uses no
number. -/
theorem history_refines_list_refusing :
    let operations :=
      [.recent (-1), .record (passing (some "Login") "2026"),
        .record (passing none "2027"), .reopen,
        .recordNow 0 (passing (some "Search") ""), .recent 1]
    let came := performAll runs operations ⟨[], []⟩
    came.2.filterMap Answer.number? = [1, 2] ∧
      ∃ stored, ServesAll [] operations came.2 stored ∧ stored.length = 2 := by
  intro operations came
  obtain ⟨serves, numbers, -⟩ := history_refines_list connect_runs operations
  have count :
      ((operations.filterMap entry?).filter fun entry =>
        entry.Storable).length = 2 := by
    rfl
  rw [count] at numbers
  exact ⟨numbers, _, serves, count⟩

/-- A limit beyond 64 bits is refused, and no listing is answered. -/
theorem recent_beyond_integers :
    ¬ ∃ rows, Lists [] rows ∧
      (performAll runs [.recent 9223372036854775808] ⟨[], []⟩).2 =
        [.listing (rows.take (9223372036854775808 : Int).toNat)] := by
  rintro ⟨rows, -, answers⟩
  have refused : (performAll runs [.recent 9223372036854775808] ⟨[], []⟩).2 =
      [.fault (.refused .integerSize)] := by
    rfl
  cases refused.symm.trans answers

end PageFlow.History
