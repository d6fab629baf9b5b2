import PageFlow.Proofs.Equality
import PageFlow.Proofs.Quoting

/-!
# Selection of actions

The step of an object is decided by its strongest tag, by what stands under that
tag and under its companion key, and by the limit. Nothing else in the object
counts: an object describes a step or it is kept as a malformed one.
-/

namespace PageFlow

open PageFlow.Decimal

namespace Step

variable {raw raw' : List (Value × Value)} {tag : Tag} {action : Action}
  {step : Step}

/-! ## What an object describes -/

/-- A tag is the strongest one among the keys of an object. -/
def Selects (raw : List (Value × Value)) (tag : Tag) : Prop :=
  ∃ stronger weaker,
    Tag.all = stronger ++ tag :: weaker ∧ Value.hasKey raw tag.key ∧
    ∀ other ∈ stronger, ¬ Value.hasKey raw other.key

/-- A text stands under a key. -/
def Holds (raw : List (Value × Value)) (key text : String) : Prop :=
  ∃ value, Value.find? raw key = some value ∧ Field.text value = .ok text

/-- What stands under a tag and under its companion key describes an action. -/
inductive Describes (raw : List (Value × Value)) : Tag → Action → Prop where
  | goto {url : String} : Holds raw "goto" url →
    Describes raw .goto (.navigate url)
  | navigate {url : String} : Holds raw "navigate" url →
    Describes raw .navigate (.navigate url)
  | click {selector : String} : Holds raw "click" selector →
    Describes raw .click (.click selector)
  | type {selector text : String} : Holds raw "type" selector →
      Holds raw "text" text →
      Describes raw .type (.type selector text)
  | waitFor {selector : String} : Holds raw "waitFor" selector →
      Describes raw .waitFor (.waitFor selector)
  | screenshot {label : String} : Holds raw "screenshot" label →
      Describes raw .screenshot (.screenshot label)
  | verify {selector expected : String} : Holds raw "verify" selector →
      Holds raw "contains" expected →
        Describes raw .verify (.verify selector expected)
  | wait {value : Value} {ms : Binary64} : Value.find? raw "wait" = some value →
      Field.float value = .ok ms → ms.isFinite → ¬ ms.isNegative →
        Describes raw .wait (.wait ms)
  | scroll {selector : String} : Holds raw "scroll" selector →
      Describes raw .scroll (.scroll selector)
  | hover {selector : String} : Holds raw "hover" selector →
    Describes raw .hover (.hover selector)
  | select {selector value : String} : Holds raw "select" selector →
      Holds raw "value" value →
      Describes raw .select (.select selector value)
  | press {key : String} : Holds raw "press" key →
    Describes raw .press (.press key)
  | pressKey {key : String} : Holds raw "pressKey" key →
    Describes raw .pressKey (.press key)
  | evaluate {script : String} : Holds raw "evaluate" script →
      Describes raw .evaluate (.evaluate script)

/-- The value that counts as the limit: that under `timeout`, null included,
else that under `timeoutMs`, else null. -/
inductive LimitValue (raw : List (Value × Value)) : Value → Prop where
  | own {value : Value} : Value.find? raw "timeout" = some value →
    LimitValue raw value
  | other {value : Value} : Value.find? raw "timeout" = none →
      Value.find? raw "timeoutMs" = some value → LimitValue raw value
  | missing : Value.find? raw "timeout" = none →
      Value.find? raw "timeoutMs" = none →
      LimitValue raw .null

/-- A value sets a limit: null sets none, an integer that is not below zero sets
itself. -/
inductive SetsLimit : Value → Option Nat → Prop where
  | none : SetsLimit .null none
  | some {value : Value} {limit : Nat} :
      Field.integer value = .ok (limit : Int) →
      SetsLimit value (some limit)

/-- An object describes a step. -/
structure Valid (raw : List (Value × Value)) (tag : Tag) (step : Step) :
    Prop where
  selects : Selects raw tag
  describes : Describes raw tag step.action
  limits : ∃ value, LimitValue raw value ∧ SetsLimit value step.timeout
  keeps : step.raw = raw

/-! ## Reading follows the description -/

theorem tag?_eq_some_iff : tag? raw = some tag ↔ Selects raw tag := by
  rw [tag?, List.find?_eq_some_iff_append, Selects]
  constructor
  · rintro ⟨present, stronger, weaker, split, absent⟩
    exact ⟨stronger, weaker, split, present,
      fun other member => by simpa using absent other member⟩
  · rintro ⟨stronger, weaker, split, present, absent⟩
    exact ⟨present, stronger, weaker, split,
      fun other member => by simpa using absent other member⟩

theorem Selects.unique {other : Tag} (selects : Selects raw tag)
    (also : Selects raw other) : tag = other := by
  have found := tag?_eq_some_iff.mpr selects
  rw [tag?_eq_some_iff.mpr also] at found
  exact (Option.some.inj found).symm

theorem limitValue_iff {value : Value} :
    LimitValue raw value ↔ timeoutValue raw = value := by
  rw [timeoutValue]
  constructor
  · rintro (own | ⟨absent, other⟩ | ⟨absent, missing⟩)
    · rw [own]
    · rw [absent, other]
      rfl
    · rw [absent, missing]
      rfl
  · rintro rfl
    cases own : Value.find? raw "timeout" with
    | some value => exact .own own
    | none =>
        cases other : Value.find? raw "timeoutMs" with
        | some value => exact .other own other
        | none => exact .missing own other

theorem bounded_eq_ok {value : Value} {n : Int} :
    Field.bounded (some 0) none value = .ok n ↔
      Field.integer value = .ok n ∧ 0 ≤ n := by
  cases read : Field.integer value with
  | error cause => simp [Field.bounded, read, bind, Except.bind]
  | ok m =>
      have judged : Field.bounded (some 0) none value =
          if m < 0 then .error (.atLeast 0) else .ok m := by
        simp only [Field.bounded, read, bind, Except.bind]
        split <;> rfl
      rw [judged]
      constructor
      · intro passed
        split at passed
        · cases passed
        · cases passed
          exact ⟨rfl, Int.not_lt.mp ‹_›⟩
      · rintro ⟨⟨⟩, least⟩
        rw [if_neg (Int.not_lt.mpr least)]

theorem readTimeout_eq_ok {value : Value} {limit : Option Nat} :
    readTimeout value = .ok limit ↔ SetsLimit value limit := by
  have number (other : value ≠ .null) : readTimeout value = .ok limit ↔
      ∃ n,
        Field.bounded (some 0) none value = .ok n ∧ some n.toNat = limit := by
    have read : readTimeout value =
        (Field.bounded (some 0) none value >>= fun n =>
          .ok (some n.toNat)) := by
      cases value <;> first | exact absurd rfl other | rfl
    rw [read]
    constructor
    · intro bound
      obtain ⟨n, found, last⟩ := exists_of_bind_eq_ok bound
      exact ⟨n, found, Except.ok.inj last⟩
    · rintro ⟨n, found, rfl⟩
      rw [found]
      rfl
  constructor
  · intro read
    by_cases null : value = .null
    · subst null
      cases read
      exact .none
    · obtain ⟨n, found, rfl⟩ := (number null).mp read
      obtain ⟨integer, least⟩ := bounded_eq_ok.mp found
      exact .some (by rwa [Int.toNat_of_nonneg least])
  · intro sets
    cases sets with
    | none => rfl
    | some integer =>
        refine (number ?_).mpr
          ⟨_, bounded_eq_ok.mpr ⟨integer, by omega⟩, by simp⟩
        rintro rfl
        cases integer

theorem duration_eq_ok {value : Value} {ms : Binary64} :
    Field.duration value = .ok ms ↔
      Field.float value = .ok ms ∧ ms.isFinite ∧ ¬ ms.isNegative := by
  cases read : Field.float value with
  | error cause => simp [Field.duration, read, bind, Except.bind]
  | ok x =>
      have judged : Field.duration value =
          if x.isFinite then if x.isNegative then .error (.atLeast 0) else .ok x
          else .error .notFinite := by
        simp only [Field.duration, read, bind, Except.bind]
        cases x.isFinite <;> cases x.isNegative <;> rfl
      rw [judged]
      constructor
      · intro passed
        split at passed
        · split at passed
          · cases passed
          · cases passed
            exact ⟨rfl, ‹_›, ‹_›⟩
        · cases passed
      · rintro ⟨⟨⟩, finite, least⟩
        rw [if_pos finite, if_neg least]

theorem placed_eq_ok {α : Type} {place : List String}
    {result : Except FieldCause α} {value : α} :
    Field.placed place result = .ok value ↔ result = .ok value := by
  cases result <;> simp [Field.placed]

theorem one_eq_ok {value : Value} {build : String → Action} :
    readAction.one tag value build = .ok action ↔
      ∃ text, Field.text value = .ok text ∧ build text = action := by
  cases read : Field.text value <;>
    simp [readAction.one, Field.placed, read, Except.map]

theorem two_eq_ok {value companion : Value} {build : String → String → Action} :
    readAction.two tag value companion build = .ok action ↔
      ∃ first second,
        Field.text value = .ok first ∧ Field.text companion = .ok second ∧
        build first second = action := by
  cases first : Field.text value <;> cases second : Field.text companion <;>
    simp [readAction.two, Field.placed, first, second]

theorem Holds.text_eq {key text : String} {value : Value}
    (holds : Holds raw key text) (found : Value.find? raw key = some value) :
    Field.text value = .ok text := by
  obtain ⟨other, same, read⟩ := holds
  rw [found] at same
  cases same
  exact read

/-- An action is read from the values under a tag and its companion key if they
describe it. -/
theorem readAction_eq_ok {value companion : Value}
    (found : Value.find? raw tag.key = some value)
    (paired : companionValue? raw tag = some companion) :
    readAction tag value companion = .ok action ↔ Describes raw tag action := by
  constructor
  · intro read
    cases tag with
    | type =>
        obtain ⟨_, _, first, second, rfl⟩ := two_eq_ok.mp read
        exact .type ⟨_, found, first⟩ ⟨_, paired, second⟩
    | verify =>
        obtain ⟨_, _, first, second, rfl⟩ := two_eq_ok.mp read
        exact .verify ⟨_, found, first⟩ ⟨_, paired, second⟩
    | select =>
        obtain ⟨_, _, first, second, rfl⟩ := two_eq_ok.mp read
        exact .select ⟨_, found, first⟩ ⟨_, paired, second⟩
    | wait =>
        obtain ⟨ms, placed, rfl⟩ := exists_of_map_eq_ok read
        obtain ⟨number, finite, least⟩ :=
          duration_eq_ok.mp (placed_eq_ok.mp placed)
        exact .wait found number finite least
    | _ =>
        obtain ⟨_, text, rfl⟩ := one_eq_ok.mp read
        constructor
        exact ⟨_, found, text⟩
  · intro described
    cases described with
    | type first second | verify first second | select first second =>
        exact two_eq_ok.mpr ⟨_, _, first.text_eq found,
          second.text_eq paired, rfl⟩
    | wait same number finite least =>
        rw [show "wait" = Tag.wait.key from rfl, found] at same
        cases same
        have read := duration_eq_ok.mpr ⟨number, finite, least⟩
        rw [readAction, placed_eq_ok.mpr read]
        rfl
    | _ text => exact one_eq_ok.mpr ⟨_, text.text_eq found, rfl⟩

theorem readFields_eq_ok {companion : Value} :
    readFields raw tag companion = .ok step ↔
      readTimeout (timeoutValue raw) = .ok step.timeout ∧ keyProblems raw = [] ∧
        readAction tag ((Value.find? raw tag.key).getD .null) companion =
          .ok step.action ∧
        step.raw = raw := by
  constructor
  · intro read
    unfold readFields at read
    dsimp only at read
    split at read
    · rename_i limit keys action
      cases read
      exact ⟨placed_eq_ok.mp limit, keys, action, rfl⟩
    · cases read
  · rintro ⟨limit, keys, action, rfl⟩
    rw [readFields, placed_eq_ok.mpr limit, keys, action]

theorem hasKey_iff {key : String} :
    Value.hasKey raw key ↔ ∃ value, Value.find? raw key = some value := by
  rw [Value.hasKey, Option.isSome_iff_exists]

theorem Describes.paired (described : Describes raw tag action) :
    ∃ companion, companionValue? raw tag = some companion := by
  cases described with
  | type _ second | verify _ second | select _ second =>
      obtain ⟨companion, found, _⟩ := second
      exact ⟨companion, found⟩
  | _ => exact ⟨.null, rfl⟩

theorem Describes.isMalformed (described : Describes raw tag action) :
    action.isMalformed = false := by
  cases described <;> rfl

theorem readObject_of_valid (keys : keyProblems raw = [])
    (valid : Valid raw tag step) : readObject raw = .ok step := by
  obtain ⟨_, _, _, present, _⟩ := valid.selects
  obtain ⟨value, found⟩ := hasKey_iff.mp present
  obtain ⟨companion, paired⟩ := valid.describes.paired
  obtain ⟨limit, counts, sets⟩ := valid.limits
  have fields : readFields raw tag companion = .ok step := by
    refine readFields_eq_ok.mpr ⟨?_, keys, ?_, valid.keeps⟩
    · rw [limitValue_iff.mp counts]
      exact readTimeout_eq_ok.mpr sets
    · rw [found]
      exact (readAction_eq_ok found paired).mpr valid.describes
  rw [readObject, tag?_eq_some_iff.mpr valid.selects]
  dsimp only
  rw [paired]
  dsimp only
  rw [fields]

/-- An object that describes no step, or has odd keys, is read as a malformed
step if at all. -/
theorem readObject_of_invalid
    (invalid : keyProblems raw = [] → ∀ tag step, ¬ Valid raw tag step) :
    ∃ opening, readObject raw = malformed? opening (.dict raw) raw := by
  unfold readObject
  split
  · exact ⟨_, rfl⟩
  · rename_i tag selected
    have selects := tag?_eq_some_iff.mp selected
    split
    · exact ⟨_, rfl⟩
    · rename_i companion paired
      split
      · rename_i step fields
        obtain ⟨limit, keys, read, keeps⟩ := readFields_eq_ok.mp fields
        obtain ⟨_, _, _, present, _⟩ := selects
        obtain ⟨value, found⟩ := hasKey_iff.mp present
        rw [found] at read
        refine absurd ⟨tag?_eq_some_iff.mp selected,
          (readAction_eq_ok found paired).mp read, ?_, keeps⟩
          (invalid keys tag step)
        exact ⟨_, limitValue_iff.mpr rfl, readTimeout_eq_ok.mp limit⟩
      · exact ⟨_, rfl⟩

/-- A malformed step can be made exactly of what can be quoted and kept. -/
theorem malformed_eq_ok {opening : String} {quoted : Value} :
    malformed? opening quoted raw = .ok step ↔
      ∃ text, quoted.jsonText? = .ok text ∧ keyProblems raw = [] ∧
        step = ofReason (opening ++ text) raw := by
  rw [malformed?]
  cases quoted.jsonText? with
  | error fault => simp
  | ok text =>
      dsimp only
      split
      · rename_i none
        simp [none, eq_comm]
      · rename_i some
        simpa using fun none => absurd none some

/-! ## Agreement -/

/-- Two objects have the same under a tag and its companion key, and the same
limit. -/
structure SameEntries (raw raw' : List (Value × Value)) (tag : Tag) : Prop where
  own : Value.find? raw tag.key = Value.find? raw' tag.key
  companion : ∀ key place, tag.companion? = some (key, place) →
    Value.find? raw key = Value.find? raw' key
  limit : ∀ value, LimitValue raw value ↔ LimitValue raw' value

/-- Two objects have the same strongest tag, if they have one, and with it the
same entries. -/
structure Agree (raw raw' : List (Value × Value)) : Prop where
  tags : ∀ tag, Selects raw tag ↔ Selects raw' tag
  entries : ∀ tag, Selects raw tag → SameEntries raw raw' tag

/-- Two steps that differ in no more than what they were read from and why they
are malformed. -/
def Alike (step step' : Step) : Prop :=
  step.timeout = step'.timeout ∧
    (step.action = step'.action ∨ step.isMalformed ∧ step'.isMalformed)

theorem Holds.of_find_eq {key text : String} (holds : Holds raw key text)
    (same : Value.find? raw key = Value.find? raw' key) :
    Holds raw' key text := by
  obtain ⟨value, found, read⟩ := holds
  exact ⟨value, same ▸ found, read⟩

theorem Describes.of_sameEntries (described : Describes raw tag action)
    (same : SameEntries raw raw' tag) : Describes raw' tag action := by
  cases described with
  | type first second =>
      exact .type (first.of_find_eq same.own)
        (second.of_find_eq (same.companion _ _ rfl))
  | verify first second =>
      exact .verify (first.of_find_eq same.own)
        (second.of_find_eq (same.companion _ _ rfl))
  | select first second =>
      exact .select (first.of_find_eq same.own)
        (second.of_find_eq (same.companion _ _ rfl))
  | wait found number finite least =>
      exact .wait (same.own.symm.trans found) number finite least
  | _ text =>
      constructor
      exact text.of_find_eq same.own

theorem Valid.of_agree (valid : Valid raw tag step) (agree : Agree raw raw') :
    Valid raw' tag { step with raw := raw' } := by
  have same := agree.entries tag valid.selects
  obtain ⟨value, counts, sets⟩ := valid.limits
  exact ⟨(agree.tags tag).mp valid.selects, valid.describes.of_sameEntries same,
    ⟨value, (same.limit value).mp counts, sets⟩, rfl⟩

theorem Agree.symm (agree : Agree raw raw') : Agree raw' raw where
  tags tag := (agree.tags tag).symm
  entries tag selects := by
    have same := agree.entries tag ((agree.tags tag).mpr selects)
    exact ⟨same.own.symm,
      fun key place paired => (same.companion key place paired).symm,
      fun value => (same.limit value).symm⟩

/-! ## Objects of JSON -/

theorem keyProblems_toEntries (members : List (String × Json)) :
    keyProblems (Json.toEntries members) = [] := by
  rw [keyProblems, List.filterMap_eq_nil_iff]
  intro entry member
  obtain ⟨_, _, rfl⟩ := Json.mem_toEntries.mp member
  rfl

theorem read_toEntries {text : String} {members : List (String × Json)}
    (decoded : Json.read text = .ok (.object members)) :
    (∃ tag step, Valid (Json.toEntries members) tag step ∧
      Step.read (.dict (Json.toEntries members)) = .ok step) ∨
    (∀ tag step, ¬ Valid (Json.toEntries members) tag step) ∧
      ∃ reason, Step.read (.dict (Json.toEntries members)) =
        .ok (ofReason reason (Json.toEntries members)) := by
  have keys := keyProblems_toEntries members
  by_cases some : ∃ tag step, Valid (Json.toEntries members) tag step
  · obtain ⟨tag, step, valid⟩ := some
    exact .inl ⟨tag, step, valid, readObject_of_valid keys valid⟩
  · have invalid : ∀ tag step, ¬ Valid (Json.toEntries members) tag step :=
      fun tag step valid => some ⟨tag, step, valid⟩
    obtain ⟨opening, read⟩ := readObject_of_invalid fun _ => invalid
    have quotable : (Value.dict (Json.toEntries members)).Quotable :=
      (Json.writable_of_read decoded).quotable
    obtain ⟨text, written⟩ := Value.exists_jsonText_iff.mpr quotable
    exact .inr ⟨invalid, opening ++ text,
      read.trans (malformed_eq_ok.mpr ⟨text, written, keys, rfl⟩)⟩

/-- An object of JSON is always read, as the step that it describes or as a
malformed one. Two objects that agree on the strongest tag, on what stands under
it and under its companion key and on the limit are read alike, whatever else
they hold. -/
theorem read_selects {text : String} {members : List (String × Json)}
    (decoded : Json.read text = .ok (.object members)) :
    let raw := Json.toEntries members
    ∃ step, Step.read (.dict raw) = .ok step ∧
      ((∀ tag : Tag, ¬ Value.hasKey raw tag.key) → step.isMalformed) ∧
      (∀ tag, Selects raw tag →
        (¬ step.isMalformed ↔ ∃ described, Valid raw tag described) ∧
        ∀ described, Valid raw tag described → step = described) ∧
      ∀ text' members', Json.read text' = .ok (.object members') →
        Agree raw (Json.toEntries members') →
        ∃ step', Step.read (.dict (Json.toEntries members')) = .ok step' ∧
          step.Alike step' := by
  intro raw
  rcases read_toEntries decoded
    with ⟨tag, step, valid, read⟩ | ⟨invalid, reason, read⟩
  · refine ⟨step, read, fun none => ?_,
      fun other selects => ⟨⟨fun _ => ?_, fun _ => ?_⟩, ?_⟩, ?_⟩
    · obtain ⟨_, _, _, present, _⟩ := valid.selects
      exact absurd present (none tag)
    · rw [selects.unique valid.selects]
      exact ⟨step, valid⟩
    · simp [isMalformed, valid.describes.isMalformed]
    · intro described also
      have same := readObject_of_valid (keyProblems_toEntries members) also
      exact Except.ok.inj (read.symm.trans same)
    · intro text' members' decoded' agree
      exact ⟨_, readObject_of_valid (keyProblems_toEntries members')
        (valid.of_agree agree), rfl, .inl rfl⟩
  · refine ⟨_, read, fun _ => rfl,
      fun tag selects => ⟨⟨fun sound => ?_, ?_⟩, ?_⟩, ?_⟩
    · exact absurd rfl sound
    · rintro ⟨described, valid⟩
      exact absurd valid (invalid tag described)
    · exact fun described valid => absurd valid (invalid tag described)
    · intro text' members' decoded' agree
      rcases read_toEntries decoded'
        with ⟨tag, step', valid', _⟩ | ⟨_, reason', read'⟩
      · exact absurd (valid'.of_agree agree.symm) (invalid tag _)
      · exact ⟨_, read', rfl, .inr ⟨rfl, rfl⟩⟩

/-- An object with two tags, the companion of one and both limits. -/
private def crowded : List (String × Json) :=
  [("hover", .int 1), ("text", .text "x"), ("type", .text "#a"),
    ("timeoutMs", .int 9), ("timeout", .text "7")]

private def crowdedText : String :=
  "\x7b\"hover\": 1, \"text\": \"x\", \"type\": \"#a\", " ++
    "\"timeoutMs\": 9, \"timeout\": \"7\"\x7d"

/-- The stronger tag and the own limit decide; the weaker tag, which no text
follows, is not looked at. -/
theorem read_selects_type :
    Json.read crowdedText = .ok (.object crowded) ∧
      Step.read (.dict (Json.toEntries crowded)) =
        .ok ⟨.type "#a" "x", some 7, Json.toEntries crowded⟩ := by
  have decoded : Json.read crowdedText = .ok (.object crowded) := by
    decide +kernel
  refine ⟨decoded, ?_⟩
  obtain ⟨step, read, _, selected, _⟩ := read_selects decoded
  have selects : Selects (Json.toEntries crowded) .type :=
    ⟨[.goto, .navigate, .click], _, rfl, by decide, by decide⟩
  have valid : Valid (Json.toEntries crowded) .type
      ⟨.type "#a" "x", some 7, Json.toEntries crowded⟩ :=
    ⟨selects, .type ⟨_, rfl, rfl⟩ ⟨_, rfl, rfl⟩,
      ⟨_, .own rfl, .some (by decide +kernel)⟩, rfl⟩
  rw [read, (selected .type selects).2 _ valid]

end Step

end PageFlow
