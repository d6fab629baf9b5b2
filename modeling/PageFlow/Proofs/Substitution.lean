import Mathlib.Data.List.TakeWhile
import PageFlow.Environment

/-!
# Substitution of references

Where references stand in a text is said here without a scanner: by place. No
place belongs to two of them, so each place of the text has one part of the
result to itself, whatever the texts of the names hold. Substitution in values
follows from that at every way into them.
-/

namespace PageFlow

namespace Reference

variable {environment : Environment} {s : List Char} {place start : Nat}
  {name other : List Char}

/-! ## Where references stand -/

/-- A letter or an underscore, and letters, digits and underscores behind it. -/
def IsName (name : List Char) : Prop :=
  ∃ first rest, name = first :: rest ∧ opensName first = true ∧
    ∀ c ∈ rest, inName c = true

/-- A reference to the name begins behind so many characters of the text. -/
def OccursAt (s : List Char) (start : Nat) (name : List Char) : Prop :=
  IsName name ∧ '$' :: '{' :: (name ++ ['}']) <+: s.drop start

/-- The place belongs to a reference that begins at `start`. -/
def Covers (s : List Char) (place start : Nat) (name : List Char) : Prop :=
  OccursAt s start name ∧ start ≤ place ∧ place < start + (name.length + 3)

theorem inName_of_opensName {c : Char} (opens : opensName c = true) :
    inName c = true := by
  simp only [opensName, inName, Char.isAlphanum, Bool.or_eq_true] at opens ⊢
  rcases opens with letter | underscore
  · exact .inl (.inl letter)
  · exact .inr underscore

theorem IsName.inName (named : IsName name) : ∀ c ∈ name, inName c = true := by
  obtain ⟨first, rest, rfl, opens, inside⟩ := named
  intro c member
  rcases List.mem_cons.mp member with rfl | later
  · exact inName_of_opensName opens
  · exact inside c later

theorem closedName?_eq_some_iff {after : List Char} :
    closedName? s = some (name, after) ↔
      IsName name ∧ s = name ++ '}' :: after := by
  constructor
  · intro closed
    refine ⟨?_, eq_of_closedName closed⟩
    have inside : ∀ c ∈ s.takeWhile inName, inName c = true :=
      fun _ => List.mem_takeWhile_imp
    rw [closedName?] at closed
    split at closed
    · rename_i taken _
      split at closed
      · rename_i opens
        cases closed
        rw [taken] at inside
        exact ⟨_, _, rfl, opens,
          fun c member => inside c (List.mem_cons_of_mem _ member)⟩
      · cases closed
    · cases closed
  · rintro ⟨named, rfl⟩
    have taken : (name ++ '}' :: after).takeWhile inName = name := by
      rw [List.takeWhile_append_of_pos named.inName]
      simp [inName]
    have dropped : (name ++ '}' :: after).dropWhile inName = '}' :: after := by
      rw [List.dropWhile_append_of_pos named.inName]
      simp [inName]
    obtain ⟨first, rest, rfl, opens, _⟩ := named
    rw [closedName?, taken, dropped]
    exact if_pos opens

theorem occursAt_iff : OccursAt s start name ↔
    IsName name ∧ ∃ after,
      s.drop start = '$' :: '{' :: (name ++ '}' :: after) := by
  constructor
  · rintro ⟨named, after, whole⟩
    refine ⟨named, after, ?_⟩
    rw [← whole]
    simp
  · rintro ⟨named, after, whole⟩
    refine ⟨named, after, ?_⟩
    rw [whole]
    simp

theorem OccursAt.unique (first : OccursAt s start name)
    (second : OccursAt s start other) : name = other := by
  obtain ⟨named, after, whole⟩ := occursAt_iff.mp first
  obtain ⟨alsoNamed, later, alsoWhole⟩ := occursAt_iff.mp second
  have same : name ++ '}' :: after = other ++ '}' :: later := by
    rw [whole] at alsoWhole
    simpa using alsoWhole
  have closed : closedName? (name ++ '}' :: after) = some (name, after) :=
    closedName?_eq_some_iff.mpr ⟨named, rfl⟩
  have alsoClosed : closedName? (name ++ '}' :: after) = some (other, later) :=
    closedName?_eq_some_iff.mpr ⟨alsoNamed, same⟩
  rw [closed] at alsoClosed
  exact congrArg Prod.fst (Option.some.inj alsoClosed)

theorem OccursAt.getElem? (occurs : OccursAt s start name) {index : Nat}
    (inside : index < name.length + 3) :
    s[start + index]? = ('$' :: '{' :: (name ++ ['}']))[index]? := by
  obtain ⟨after, whole⟩ := occurs.2
  rw [← List.getElem?_drop, ← whole, List.getElem?_append_left]
  simp only [List.length_cons, List.length_append, List.length_nil]
  omega

/-- References do not overlap: behind its first character there is no dollar in
a reference. -/
theorem OccursAt.apart {later : Nat} (first : OccursAt s start name)
    (second : OccursAt s later other) (before : start < later) :
    start + (name.length + 3) ≤ later := by
  by_contra overlap
  obtain ⟨index, rfl⟩ := Nat.exists_eq_add_of_lt before
  have dollar := second.getElem? (Nat.zero_lt_succ _)
  rw [Nat.add_zero, Nat.add_assoc, first.getElem? (by omega)] at dollar
  simp only [List.getElem?_cons_succ, List.getElem?_cons_zero] at dollar
  have member : '$' ∈ '{' :: (name ++ ['}']) := List.mem_of_getElem? dollar
  have among : '$' ∈ name := by simpa using member
  exact absurd (first.1.inName '$' among) (by decide)

theorem Covers.unique {later : Nat} (first : Covers s place start name)
    (second : Covers s place later other) : start = later ∧ name = other := by
  obtain ⟨occurs, begun, within⟩ := first
  obtain ⟨alsoOccurs, alsoBegun, alsoWithin⟩ := second
  rcases Nat.lt_trichotomy start later with before | rfl | behind
  · have apart := occurs.apart alsoOccurs before
    omega
  · exact ⟨rfl, occurs.unique alsoOccurs⟩
  · have apart := alsoOccurs.apart occurs behind
    omega

/-! ## What places give -/

/-- What a place of the text gives to the result: the text of the name if a
reference to a known name begins there, nothing inside such a reference, and its
own character everywhere else. -/
inductive Gives (environment : Environment) (s : List Char) (place : Nat) :
    List Char → Prop where
  | text {name : List Char} {text : String} :
      OccursAt s place name →
      environment.find? (String.ofList name) = some text →
      Gives environment s place text.toList
  | nothing {start : Nat} {name : List Char} {text : String} :
      Covers s place start name → start < place →
      environment.find? (String.ofList name) = some text →
      Gives environment s place []
  | itself {c : Char} :
      (∀ start name, Covers s place start name →
        environment.find? (String.ofList name) = none) →
      s[place]? = some c →
      Gives environment s place [c]

theorem OccursAt.covers (occurs : OccursAt s start name) :
    Covers s start start name :=
  ⟨occurs, Nat.le_refl start, by omega⟩

theorem Gives.unique {part twin : List Char}
    (first : Gives environment s place part)
    (second : Gives environment s place twin) : part = twin := by
  cases first with
  | text occurs known =>
      cases second with
      | text alsoOccurs alsoKnown =>
          rw [occurs.unique alsoOccurs, alsoKnown] at known
          rw [Option.some.inj known]
      | nothing covers before _ =>
          have same := (occurs.covers.unique covers).1
          omega
      | itself unknown _ =>
          rw [unknown _ _ occurs.covers] at known
          cases known
  | nothing covers before known =>
      cases second with
      | text occurs _ =>
          have same := (occurs.covers.unique covers).1
          omega
      | nothing => rfl
      | itself unknown _ =>
          rw [unknown _ _ covers] at known
          cases known
  | itself unknown found =>
      cases second with
      | text occurs known =>
          rw [unknown _ _ occurs.covers] at known
          cases known
      | nothing covers _ known =>
          rw [unknown _ _ covers] at known
          cases known
      | itself _ alsoFound =>
          rw [found] at alsoFound
          rw [Option.some.inj alsoFound]

theorem Covers.lt_length (covers : Covers s place start name) :
    place < s.length := by
  obtain ⟨occurs, begun, within⟩ := covers
  obtain ⟨index, rfl⟩ := Nat.exists_eq_add_of_le begun
  have inside : index < name.length + 3 := by omega
  have stands : ('$' :: '{' :: (name ++ ['}']))[index]?.isSome := by
    rw [Option.isSome_iff_ne_none, ne_eq, List.getElem?_eq_none_iff]
    simp only [List.length_cons, List.length_append, List.length_nil]
    omega
  rw [← occurs.getElem? inside] at stands
  simpa using stands

theorem Gives.lt_length {part : List Char}
    (gives : Gives environment s place part) : place < s.length := by
  cases gives with
  | text occurs _ => exact occurs.covers.lt_length
  | nothing covers _ _ => exact covers.lt_length
  | itself _ found => exact (List.getElem?_eq_some_iff.mp found).1

/-- So many parts from a place on are what the places give. -/
def PartsFrom (environment : Environment) (s : List Char) (place : Nat)
    (parts : List (List Char)) : Prop :=
  ∀ index part, parts[index]? = some part →
    Gives environment s (place + index) part

theorem PartsFrom.append {parts later : List (List Char)}
    (first : PartsFrom environment s place parts)
    (second : PartsFrom environment s (place + parts.length) later) :
    PartsFrom environment s place (parts ++ later) := by
  intro index part found
  by_cases early : index < parts.length
  · rw [List.getElem?_append_left early] at found
    exact first index part found
  · rw [List.getElem?_append_right (by omega)] at found
    have gives := second _ part found
    rwa [Nat.add_assoc, Nat.add_sub_cancel' (by omega)] at gives

/-- A reference to a known name gives the text of the name at its first
place. -/
theorem partsFrom_known {text : String} (occurs : OccursAt s place name)
    (known : environment.find? (String.ofList name) = some text) :
    PartsFrom environment s place
      (text.toList :: List.replicate (name.length + 2) []) := by
  intro index part found
  cases index with
  | zero =>
      cases found
      exact .text occurs known
  | succ index =>
      rw [List.getElem?_cons_succ, List.getElem?_replicate] at found
      split at found
      · rename_i inside
        cases found
        exact .nothing ⟨occurs, by omega, by omega⟩ (by omega) known
      · cases found

theorem partsFrom_unknown (occurs : OccursAt s place name)
    (unknown : environment.find? (String.ofList name) = none) :
    PartsFrom environment s place
      (('$' :: '{' :: (name ++ ['}'])).map fun c => [c]) := by
  intro index part found
  rw [List.getElem?_map] at found
  obtain ⟨c, stands, rfl⟩ := Option.map_eq_some_iff.mp found
  have inside : index < name.length + 3 := by
    have bound := (List.getElem?_eq_some_iff.mp stands).1
    simp only [List.length_cons, List.length_append, List.length_nil] at bound
    omega
  refine .itself ?_ ?_
  · intro start other covers
    obtain ⟨rfl, rfl⟩ := covers.unique ⟨occurs, by omega, by omega⟩
    exact unknown
  · rw [occurs.getElem? inside]
    exact stands

theorem partsFrom_plain {c : Char} (found : s[place]? = some c)
    (free : ∀ start name, ¬ Covers s place start name) :
    PartsFrom environment s place [[c]] := by
  intro index part here
  cases index with
  | zero =>
      cases here
      exact .itself (fun start name covers => (free start name covers).elim)
        found
  | succ index => cases here

/-- No reference begins before the place and reaches it. -/
def Boundary (s : List Char) (place : Nat) : Prop :=
  ∀ start name, OccursAt s start name → start < place →
    start + (name.length + 3) ≤ place

theorem Boundary.behind (occurs : OccursAt s place name) :
    Boundary s (place + (name.length + 3)) := by
  intro start other begins before
  rcases Nat.lt_trichotomy start place with early | rfl | late
  · have apart := begins.apart occurs early
    omega
  · rw [occurs.unique begins]
  · have apart := occurs.apart begins late
    omega

section Plain

variable (boundary : Boundary s place)
  (absent : ∀ name, ¬ OccursAt s place name)

include boundary absent

theorem Boundary.not_covers (start : Nat) (name : List Char) :
    ¬ Covers s place start name := by
  rintro ⟨occurs, begun, within⟩
  rcases Nat.lt_or_eq_of_le begun with before | rfl
  · have apart := boundary start name occurs before
    omega
  · exact absent name occurs

theorem Boundary.succ : Boundary s (place + 1) := by
  intro start name occurs before
  rcases Nat.lt_or_eq_of_le (Nat.le_of_lt_succ before) with earlier | rfl
  · have apart := boundary start name occurs earlier
    omega
  · exact (absent name occurs).elim

end Plain

theorem exists_parts_cons {c : Char} {rest : List Char}
    (whole : s.drop place = c :: rest) (boundary : Boundary s place)
    (absent : ∀ name, ¬ OccursAt s place name)
    (later : s.drop (place + 1) = rest → ∃ parts, parts.length = rest.length ∧
      PartsFrom environment s (place + 1) parts ∧
      parts.flatten = (pieces rest).flatMap (Piece.resolve environment)) :
    ∃ parts,
      parts.length = (c :: rest).length ∧ PartsFrom environment s place parts ∧
      parts.flatten = (Piece.plain c :: pieces rest).flatMap
        (Piece.resolve environment) := by
  have behind : s.drop (place + 1) = rest := by
    rw [← List.drop_drop, whole]
    rfl
  have found : s[place]? = some c := by
    rw [← Nat.add_zero place, ← List.getElem?_drop, whole]
    rfl
  obtain ⟨parts, count, gives, same⟩ := later behind
  refine ⟨[c] :: parts, ?_, ?_, ?_⟩
  · simp [count]
  · exact (partsFrom_plain found (boundary.not_covers absent)).append gives
  · simp [same, Piece.resolve]

/-- The parts that a text is cut into resolve to what its places give. -/
theorem exists_parts (environment : Environment) {rest : List Char}
    (whole : s.drop place = rest) (boundary : Boundary s place) :
    ∃ parts, parts.length = rest.length ∧ PartsFrom environment s place parts ∧
      parts.flatten = (pieces rest).flatMap (Piece.resolve environment) := by
  -- The text is cut from left to right, always at a boundary.
  fun_induction pieces rest generalizing place with
  | case1 =>
      refine ⟨[], rfl, ?_, rfl⟩
      intro index part found
      cases found
  | case2 rest name after closed induction =>
      obtain ⟨named, rfl⟩ := closedName?_eq_some_iff.mp closed
      have occurs : OccursAt s place name :=
        occursAt_iff.mpr ⟨named, after, whole⟩
      have behind : s.drop (place + (name.length + 3)) = after := by
        rw [← List.drop_drop, whole]
        simp
      obtain ⟨parts, count, gives, same⟩ := induction behind (.behind occurs)
      cases known : environment.find? (String.ofList name) with
      | some text =>
          let here := text.toList :: List.replicate (name.length + 2) []
          have length : here.length = name.length + 3 := by simp [here]
          refine ⟨here ++ parts, ?_, ?_, ?_⟩
          · simp [length, count]
            omega
          · exact (partsFrom_known occurs known).append (by rwa [length])
          · simp [here, same, Piece.resolve, known]
      | none =>
          let here := ('$' :: '{' :: (name ++ ['}'])).map fun c => [c]
          have length : here.length = name.length + 3 := by simp [here]
          refine ⟨here ++ parts, ?_, ?_, ?_⟩
          · simp [length, count]
            omega
          · exact (partsFrom_unknown occurs known).append (by rwa [length])
          · simp [here, same, Piece.resolve, Piece.source, known,
              ← List.flatMap_def]
  | case3 rest unclosed induction =>
      have absent : ∀ name, ¬ OccursAt s place name := by
        intro name occurs
        obtain ⟨named, after, stands⟩ := occursAt_iff.mp occurs
        rw [whole] at stands
        have closed :=
          closedName?_eq_some_iff.mpr
            ⟨named, (List.cons.inj (List.cons.inj stands).2).2⟩
        rw [unclosed] at closed
        cases closed
      exact exists_parts_cons whole boundary absent
        (induction · (boundary.succ absent))
  | case4 c rest other induction =>
      have absent : ∀ name, ¬ OccursAt s place name := by
        intro name occurs
        obtain ⟨_, after, stands⟩ := occursAt_iff.mp occurs
        rw [whole] at stands
        exact other _ (List.cons.inj stands).1 (List.cons.inj stands).2
      exact exists_parts_cons whole boundary absent
        (induction · (boundary.succ absent))

/-- What a text gives is put together from its places. -/
theorem exists_parts_substitute (environment : Environment) (text : String) :
    ∃ parts : List (List Char), parts.length = text.toList.length ∧
      (∀ place part, parts[place]? = some part ↔
        Gives environment text.toList place part) ∧
      substitute environment text = String.ofList parts.flatten := by
  have boundary : Boundary text.toList 0 := by
    intro start name _ before
    omega
  obtain ⟨parts, count, gives, same⟩ := exists_parts environment rfl boundary
  refine ⟨parts, count, ?_, ?_⟩
  · intro place part
    constructor
    · intro found
      simpa using gives place part found
    · intro given
      have inside : place < parts.length := by
        rw [count]
        exact given.lt_length
      have found := List.getElem?_eq_getElem inside
      have also := gives place _ found
      rw [Nat.zero_add] at also
      rw [found, also.unique given]
  · rw [substitute, same]
    rfl

end Reference

namespace Value

open Reference

/-! ## Ways into values -/

/-- One turn on the way into a value: to an item of a list, or to what stands
under a key of a mapping. -/
inductive Turning where
  | item (index : Nat)
  | key (key : Value)

/-- The value at the end of a way. -/
def at? : List Turning → Value → Option Value
  | [], value => some value
  | .item index :: way, .list items => items[index]?.bind (at? way)
  | .key key :: way, .dict entries =>
    (entries.find? fun entry => entry.1.sameKey key).bind fun entry =>
      at? way entry.2
  | _ :: _, _ => none

mutual

/-- A value with all texts in it blotted out. Keys and other values can still be
seen. -/
def outline : Value → Value
  | .text _ => .text ""
  | .list items => .list (outlineAll items)
  | .dict entries => .dict (outlineEntries entries)
  | other => other

def outlineAll : List Value → List Value
  | [] => []
  | item :: items => outline item :: outlineAll items

def outlineEntries : List (Value × Value) → List (Value × Value)
  | [] => []
  | (key, value) :: entries => (key, outline value) :: outlineEntries entries

end

mutual

theorem outline_substituteIn (environment : Environment) (value : Value) :
    (substituteIn environment value).outline = value.outline := by
  cases value with
  | text s => rfl
  | list items =>
      exact congrArg Value.list (outlineAll_substituteInAll environment items)
  | dict entries =>
      exact congrArg Value.dict
        (outlineEntries_substituteInEntries environment entries)
  | _ => rfl

theorem outlineAll_substituteInAll (environment : Environment)
    (items : List Value) :
    outlineAll (substituteInAll environment items) = outlineAll items := by
  cases items with
  | nil => rfl
  | cons item items =>
      rw [substituteInAll, outlineAll, outlineAll, outline_substituteIn,
        outlineAll_substituteInAll environment items]

theorem outlineEntries_substituteInEntries (environment : Environment)
    (entries : List (Value × Value)) :
    outlineEntries (substituteInEntries environment entries) =
      outlineEntries entries := by
  cases entries with
  | nil => rfl
  | cons entry entries =>
      obtain ⟨key, value⟩ := entry
      rw [substituteInEntries, outlineEntries, outlineEntries,
        outline_substituteIn,
        outlineEntries_substituteInEntries environment entries]

end

/-- The same ways lead into a value after substitution, each to what was there
before it, substituted. -/
theorem at?_substituteIn (environment : Environment) (way : List Turning)
    (value : Value) :
    at? way (substituteIn environment value) =
      (at? way value).map (substituteIn environment) := by
  induction way generalizing value with
  | nil => rfl
  | cons turning way induction =>
      cases turning with
      | item index =>
          cases value with
          | list items =>
              rw [substituteIn, substituteInAll_eq_map, at?, at?,
                List.getElem?_map]
              cases items[index]? with
              | none => rfl
              | some item => exact induction item
          | _ => rfl
      | key key =>
          cases value with
          | dict entries =>
              rw [substituteIn, substituteInEntries_eq_map, at?, at?,
                List.find?_map]
              cases found : entries.find? fun entry => entry.1.sameKey key with
              | none =>
                  simp only [Function.comp_def, found, Option.map_none,
                    Option.bind_none]
              | some entry =>
                  simp only [Function.comp_def, found, Option.map_some,
                    Option.bind_some, induction]
          | _ => rfl

end Value

/-- No place of a text belongs to two references. The result of a substitution
is put together from what the places of the text give by themselves: the text of
a known name for a reference to it, and all else as it stands. Nothing that a
name stands for is looked at again. In a value all texts are substituted in this
way, and nothing else is changed: not its shape, nor its keys and their order,
nor what is no text. -/
theorem Reference.substitution_goes_by_place (environment : Environment)
    (text : String) (value : Value) :
    (∀ place start later name other, Covers text.toList place start name →
      Covers text.toList place later other → start = later ∧ name = other) ∧
    (∃ parts : List (List Char), parts.length = text.toList.length ∧
      (∀ place part, parts[place]? = some part ↔
        Gives environment text.toList place part) ∧
      substitute environment text = String.ofList parts.flatten) ∧
    substituteIn environment (.text text) =
      .text (substitute environment text) ∧
    (substituteIn environment value).outline = value.outline ∧
    ∀ way, Value.at? way (substituteIn environment value) =
      (Value.at? way value).map (substituteIn environment) := by
  refine ⟨?_, ?_, rfl, ?_, ?_⟩
  · intro place start later name other first second
    exact first.unique second
  · exact exists_parts_substitute environment text
  · exact Value.outline_substituteIn environment value
  · intro way
    exact Value.at?_substituteIn environment way value

/-- The text of the inner name closes a reference to the outer one, which nobody
looks for any more. -/
theorem Reference.substitution_goes_by_place_closing :
    let environment : Environment := ⟨[("A", "x"), ("B", "\x7d")]⟩
    let text := "$\x7bA$\x7bB\x7d\x7d"
    (∀ start name, Covers text.toList 4 start name → start = 3 ∧ name = ['B']) ∧
      (∃ parts : List (List Char), parts.length = 8 ∧
        (∀ place part, parts[place]? = some part ↔
          Gives environment text.toList place part) ∧
        String.ofList parts.flatten = "$\x7bA\x7d\x7d") ∧
      substituteIn environment (.text text) = .text "$\x7bA\x7d\x7d" := by
  intro environment text
  obtain ⟨apart, ⟨parts, count, gives, whole⟩, same, _⟩ :=
    Reference.substitution_goes_by_place environment text .null
  have result : substitute environment text = "$\x7bA\x7d\x7d" := by
    decide +kernel
  have inner : Covers text.toList 4 3 ['B'] := by
    have stands :
        text.toList.drop 3 = '$' :: '{' :: (['B'] ++ '}' :: ['}']) := by
      decide
    exact ⟨occursAt_iff.mpr ⟨⟨'B', [], rfl, rfl, nofun⟩, _, stands⟩,
      by decide, by decide⟩
  rw [result] at whole same
  refine ⟨?_, ⟨parts, count.trans (by decide), gives, whole.symm⟩, same⟩
  intro start name covers
  exact apart 4 start 3 name ['B'] covers inner

end PageFlow
