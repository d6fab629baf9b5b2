import PageFlow.Proofs.Keeping

/-!
# Environments and actions

Replacing references changes texts into texts and leaves keys and all other
values alone. Hence the strongest tag of a step is the same in every
environment, and its action can be lost in one of them only where a text is read
as a number: as the duration of a wait, or as the limit.
-/

namespace PageFlow

open PageFlow.Reference

namespace Step

variable {environment first second : Environment}
  {raw raw' : List (Value × Value)} {tag : Tag} {action action' : Action}
  {step step' : Step} {value : Value}

/-! ## What does not depend on the environment -/

theorem selects_substituteInEntries :
    Selects (substituteInEntries environment raw) tag ↔ Selects raw tag := by
  have present (key : String) :
      Value.hasKey (substituteInEntries environment raw) key =
        Value.hasKey raw key := by
    rw [Value.hasKey, find?_substituteInEntries, Option.isSome_map,
      Value.hasKey]
  simp only [Selects, present]

theorem exists_holds_substituteInEntries {key : String} :
    (∃ text, Holds (substituteInEntries environment raw) key text) ↔
      ∃ text, Holds raw key text := by
  have textual (value : Value) :
      (∃ text, Field.text (substituteIn environment value) = .ok text) ↔
      ∃ text, Field.text value = .ok text := by
    cases value with
    | text s =>
        exact ⟨fun _ => ⟨s, rfl⟩, fun _ => ⟨substitute environment s, rfl⟩⟩
    | list items | dict entries => simp [substituteIn, Field.text]
    | _ => rfl
  constructor
  · rintro ⟨text, replaced, found, read⟩
    rw [find?_substituteInEntries] at found
    obtain ⟨value, original, rfl⟩ := Option.map_eq_some_iff.mp found
    obtain ⟨text, read⟩ := (textual value).mp ⟨text, read⟩
    exact ⟨text, value, original, read⟩
  · rintro ⟨text, value, found, read⟩
    obtain ⟨text, read⟩ := (textual value).mpr ⟨text, read⟩
    exact ⟨text, _, by rw [find?_substituteInEntries, found]; rfl, read⟩

theorem Holds.elsewhere {key text : String}
    (holds : Holds (substituteInEntries first raw) key text) :
    ∃ text, Holds (substituteInEntries second raw) key text :=
  exists_holds_substituteInEntries.mpr
    (exists_holds_substituteInEntries.mp ⟨text, holds⟩)

theorem Describes.elsewhere
    (described : Describes (substituteInEntries first raw) tag action)
    (untimed : tag ≠ .wait) :
    ∃ action, Describes (substituteInEntries second raw) tag action := by
  cases described with
  | type selector text =>
      obtain ⟨_, selector⟩ := selector.elsewhere
      obtain ⟨_, text⟩ := text.elsewhere
      exact ⟨_, .type selector text⟩
  | verify selector expected =>
      obtain ⟨_, selector⟩ := selector.elsewhere
      obtain ⟨_, expected⟩ := expected.elsewhere
      exact ⟨_, .verify selector expected⟩
  | select selector choice =>
      obtain ⟨_, selector⟩ := selector.elsewhere
      obtain ⟨_, choice⟩ := choice.elsewhere
      exact ⟨_, .select selector choice⟩
  | wait => exact absurd rfl untimed
  | _ text =>
      obtain ⟨_, text⟩ := text.elsewhere
      apply Exists.intro
      constructor
      exact text

theorem Describes.name_eq (described : Describes raw tag action)
    (also : Describes raw' tag action') : action.name = action'.name := by
  cases described <;> cases also <;> rfl

theorem timeoutValue_substituteInEntries :
    timeoutValue (substituteInEntries environment raw) =
      substituteIn environment (timeoutValue raw) := by
  rw [timeoutValue, find?_substituteInEntries, find?_substituteInEntries,
    timeoutValue]
  cases Value.find? raw "timeout" with
  | some value => rfl
  | none =>
      cases Value.find? raw "timeoutMs" with
      | some value => rfl
      | none => rfl

theorem readTimeout_substituteIn (untexted : ∀ s, value ≠ .text s) :
    readTimeout (substituteIn environment value) = readTimeout value := by
  cases value with
  | text s => exact absurd rfl (untexted s)
  | list items | dict entries => rw [substituteIn]; rfl
  | _ => rfl

/-- No text is read as a number: the strongest tag of an object is no wait, and
its limit is no text. -/
def Unnumbered (value : Value) : Prop :=
  ∀ raw tag, value = .dict raw → Selects raw tag →
    tag ≠ .wait ∧ ∀ limit, LimitValue raw limit → ∀ s, limit ≠ .text s

theorem Valid.elsewhere (valid : Valid (substituteInEntries first raw) tag step)
    (unnumbered : Unnumbered (.dict raw)) :
    ∃ step, Valid (substituteInEntries second raw) tag step := by
  have selects := selects_substituteInEntries.mp valid.selects
  obtain ⟨untimed, untexted⟩ := unnumbered raw tag rfl selects
  obtain ⟨action, described⟩ := valid.describes.elsewhere untimed
  obtain ⟨value, counts, sets⟩ := valid.limits
  have fixed (environment : Environment) :
      readTimeout (timeoutValue (substituteInEntries environment raw)) =
        readTimeout (timeoutValue raw) := by
    rw [timeoutValue_substituteInEntries]
    exact readTimeout_substituteIn (untexted _ (limitValue_iff.mpr rfl))
  have limited :
      SetsLimit (timeoutValue (substituteInEntries second raw))
        step.timeout := by
    rw [← readTimeout_eq_ok, fixed second, ← fixed first,
      limitValue_iff.mp counts]
    exact readTimeout_eq_ok.mpr sets
  exact ⟨⟨action, step.timeout, _⟩, selects_substituteInEntries.mpr selects,
    described, ⟨_, limitValue_iff.mpr rfl, limited⟩, rfl⟩

/-! ## Steps in two environments -/

theorem eq_dict_of_substituteIn
    (replaced : substituteIn environment value = .dict raw') :
    ∃ raw, value = .dict raw ∧ raw' = substituteInEntries environment raw := by
  cases value with
  | dict raw => exact ⟨raw, rfl, (Value.dict.inj replaced).symm⟩
  | _ => cases replaced

theorem Becomes.exists_valid
    (becomes : Becomes (substituteIn environment value) step)
    (sound : ¬ step.isMalformed) :
    ∃ raw tag, value = .dict raw ∧
      Valid (substituteInEntries environment raw) tag step := by
  obtain ⟨replaced, tag, same, valid⟩ := becomes.described.mp sound
  obtain ⟨raw, rfl, rfl⟩ := eq_dict_of_substituteIn same
  exact ⟨raw, tag, rfl, valid⟩

theorem name_of_isMalformed (malformed : step.isMalformed) :
    step.action.name = "malformed" := by
  obtain ⟨action, timeout, raw⟩ := step
  cases action with
  | malformed reason => rfl
  | _ => cases malformed

/-- Two sound steps of one value have the same kind of action, whatever their
environments. -/
theorem Becomes.name_eq_of_sound
    (becomes : Becomes (substituteIn first value) step)
    (becomes' : Becomes (substituteIn second value) step')
    (sound : ¬ step.isMalformed) (sound' : ¬ step'.isMalformed) :
    step.action.name = step'.action.name := by
  obtain ⟨raw, tag, rfl, valid⟩ := becomes.exists_valid sound
  obtain ⟨raw', tag', same, valid'⟩ := becomes'.exists_valid sound'
  obtain rfl := Value.dict.inj same
  have tags : tag = tag' :=
    (selects_substituteInEntries.mp valid.selects).unique
      (selects_substituteInEntries.mp valid'.selects)
  subst tags
  exact valid.describes.name_eq valid'.describes

/-- A step that reads no text as a number is sound in every environment or in
none. -/
theorem Becomes.sound_elsewhere
    (becomes : Becomes (substituteIn first value) step)
    (becomes' : Becomes (substituteIn second value) step')
    (unnumbered : Unnumbered value) (sound : ¬ step.isMalformed) :
    ¬ step'.isMalformed := by
  obtain ⟨raw, tag, rfl, valid⟩ := becomes.exists_valid sound
  obtain ⟨other, valid'⟩ : ∃ step,
      Valid (substituteInEntries second raw) tag step :=
    valid.elsewhere unnumbered
  -- What stands under the keys is valid again, and the keys are fitting since
  -- the object was read at all.
  have keys : TextKeys (substituteInEntries second raw) :=
    (becomes_of_read becomes'.read).2.textKeys
  have read := readObject_of_valid (keyProblems_eq_nil_iff.mpr keys) valid'
  obtain rfl : other = step' := Except.ok.inj (read.symm.trans becomes'.read)
  exact becomes'.described.mpr ⟨_, tag, rfl, valid'⟩

theorem Becomes.name_eq (becomes : Becomes (substituteIn first value) step)
    (becomes' : Becomes (substituteIn second value) step')
    (unnumbered : Unnumbered value) :
    step.action.name = step'.action.name := by
  by_cases malformed : step.isMalformed
  · have malformed' : step'.isMalformed := by
      by_contra sound'
      exact becomes'.sound_elsewhere becomes unnumbered sound' malformed
    rw [name_of_isMalformed malformed, name_of_isMalformed malformed']
  · exact becomes.name_eq_of_sound becomes' malformed
      (becomes.sound_elsewhere becomes' unnumbered malformed)

end Step

namespace Flow

/-- The environment does not choose the actions of a flow. Two flows of one
mapping have equally many steps. At each place their actions are of one kind, or
one of them is malformed; and where no text is read as a number they are of one
kind. -/
theorem same_actions_of_ofValue {first second : Environment}
    {source source' : String} {entries : List (Value × Value)}
    {flow flow' : Flow} (read : ofValue first source (.dict entries) = .ok flow)
    (read' : ofValue second source' (.dict entries) = .ok flow') :
    flow.steps.length = flow'.steps.length ∧
      ∃ values, Value.find? entries "steps" = some (.list values) ∧
        values.length = flow.steps.length ∧
        ∀ (i : Nat) (value : Value) (step step' : Step),
          values[i]? = some value → flow.steps[i]? = some step →
          flow'.steps[i]? = some step' →
            (step.action.name = step'.action.name ∨ step.isMalformed ∨
              step'.isMalformed) ∧
            (Step.Unnumbered value → step.action.name = step'.action.name) := by
  obtain ⟨_, _, values, listed, steps⟩ := ofValue_eq_ok.mp read
  obtain ⟨_, _, values', listed', steps'⟩ := ofValue_eq_ok.mp read'
  obtain rfl := Value.list.inj (Option.some.inj (listed.symm.trans listed'))
  refine ⟨steps.length_eq.symm.trans steps'.length_eq, values, listed,
    steps.length_eq, ?_⟩
  intro i value step step' here own own'
  obtain ⟨inside, rfl⟩ := List.getElem?_eq_some_iff.mp here
  obtain ⟨within, rfl⟩ := List.getElem?_eq_some_iff.mp own
  obtain ⟨within', rfl⟩ := List.getElem?_eq_some_iff.mp own'
  have becomes := (Step.becomes_of_read (steps.get inside within)).1
  have becomes' := (Step.becomes_of_read (steps'.get inside within')).1
  refine ⟨?_, becomes.name_eq becomes'⟩
  by_cases malformed : flow.steps[i].isMalformed
  · exact .inr (.inl malformed)
  · by_cases malformed' : flow'.steps[i].isMalformed
    · exact .inr (.inr malformed')
    · exact .inl (becomes.name_eq_of_sound becomes' malformed malformed')

/-- A click on a place and a wait, both of which the environment names. -/
private def timed : List (Value × Value) :=
  [(.text "name", .text "Timed"),
    (.text "steps", .list [.dict [(.text "click", .text "$\x7bPLACE\x7d")],
      .dict [(.text "wait", .text "$\x7bTIME\x7d")]])]

/-- A time that is no number makes the wait malformed, and no environment makes
it anything else. -/
theorem same_actions_of_timed :
    ∃ flow flow',
      ofValue ⟨[("PLACE", "#a"), ("TIME", "5")]⟩ "timed.yaml" (.dict timed) =
        .ok flow ∧
      ofValue ⟨[("PLACE", "#b"), ("TIME", "soon")]⟩ "timed.yaml" (.dict timed) =
        .ok flow' ∧
      flow.steps.map (·.action.name) = ["click", "wait"] ∧
      flow'.steps.map (·.action.name) = ["click", "malformed"] ∧
      flow.steps.length = flow'.steps.length := by
  have names :
      ((ofValue ⟨[("PLACE", "#a"), ("TIME", "5")]⟩ "timed.yaml"
        (.dict timed)).map
      fun flow => flow.steps.map (·.action.name)) = .ok ["click", "wait"] :=
    eq_ok_of_toOption (by decide +kernel)
  have names' :
      ((ofValue ⟨[("PLACE", "#b"), ("TIME", "soon")]⟩ "timed.yaml"
        (.dict timed)).map fun flow => flow.steps.map (·.action.name)) =
        .ok ["click", "malformed"] :=
    eq_ok_of_toOption (by decide +kernel)
  obtain ⟨flow, read, same⟩ := exists_of_map_eq_ok names
  obtain ⟨flow', read', same'⟩ := exists_of_map_eq_ok names'
  exact ⟨flow, flow', read, read', same, same',
    (same_actions_of_ofValue read read').1⟩

end Flow

end PageFlow
