import PageFlow.Proofs.Execution
import PageFlow.Proofs.LowerCase

/-!
# Texts that are found

A verify step waits for its element and looks for the expected text in what the
page answers, both in lower case. A text that occurs in the answer as it stands
is found wherever its capital sigmas keep their forms, which is everywhere
exactly for the steady texts.
-/

namespace PageFlow

open Act Text

variable {σ : Type} {driver : Driver σ} {context : StepContext}

/-! ## Occurrences -/

theorem Verification.holds_iff {expected found : String} :
    holds expected found = true ↔
      lowerChars expected.toList <:+: lowerChars found.toList :=
  occursIn_iff

theorem Verification.holds_of_sameForms {expected found : String}
    {before behind : List Char}
    (occurs : found.toList = before ++ expected.toList ++ behind)
    (same : SameForms before.reverse behind [] [] expected.toList) :
    holds expected found = true := by
  rw [holds_iff, occurs]
  exact infix_lowerChars same

theorem Verification.holds_of_infix_iff {expected : String} :
    (∀ found : String, expected.toList <:+: found.toList →
        holds expected found = true) ↔
      Steady expected.toList := by
  rw [← infix_lowerChars_iff]
  constructor
  · intro accepts text occurs
    have found := accepts (String.ofList text) (by simpa using occurs)
    simpa [holds_iff] using found
  · intro accepts found occurs
    rw [holds_iff]
    exact accepts found.toList occurs

/-! ## Verify steps -/

theorem Act.execute_of_speaks {step : Step} {world begun : World σ}
    {script : List Call} {judge : List String → Except Fault (Option Path)}
    (ready : setUpLog world = (.ok (), begun))
    (speaks : (carryOut driver context step).Speaks driver begun script judge) :
    ∃ answers duration after, Recites driver world script answers after ∧
      execute driver context step world =
        (step.judged duration (answers.bind judge), after) := by
  obtain ⟨answers, recital, ended⟩ := speaks
  obtain ⟨duration, after, _, quiet, executed⟩ :=
    execute_eq driver context ready step
  have opening := quiet_setUpLog world
  rw [ready] at opening
  refine ⟨answers, duration, after,
    (recital.quiet_left opening).quiet_right quiet, ?_⟩
  rw [executed, ended]

def Step.inquiry (settings : Settings) (step : Step) (selector : String) :
    List Call :=
  [.waitFor (Locator.ofSelector selector) .attached
    (step.patience settings.actionTimeout),
    .textContent (Locator.ofSelector selector)]

theorem Act.speaks_carryOut_verify (driver : Driver σ) (context : StepContext)
    {step : Step} {selector expected : String} {world : World σ}
    (action : step.action = .verify selector expected)
    (ready : world.log.threshold.isSome) :
    (carryOut driver context step).Speaks driver world
        (step.inquiry context.settings selector)
      fun answers => Verification.examine expected (answers.getLastD "") := by
  have moves : step.moves context.settings context.baseUrl =
      [.call (.waitFor (Locator.ofSelector selector) .attached
        (step.patience context.settings.actionTimeout)),
        .check (Locator.ofSelector selector) expected] := by
    unfold Step.moves
    rw [action, Step.limit_eq]
  rw [carryOut, moves, action]
  apply speaks_timed ready
  apply (speaks_calls [_] fun _ _ => speaks_check _ expected).judged_by
  intro answers both
  obtain ⟨shown, found, rfl⟩ := List.length_eq_two.mp both
  rfl

/-- What comes of a verify step whose element has a text. -/
def Step.examined (step : Step) (expected : String) (duration : Int)
    (found : String) : Outcome :=
  if Verification.holds expected found then ⟨step, true, duration, none, none⟩
  else ⟨step, false, duration,
    some (Verification.complaint expected found), none⟩

theorem Step.judged_examine (step : Step) (expected : String) (duration : Int)
    (found : String) :
    step.judged duration (Verification.examine expected found) =
      .ok (step.examined expected duration found) := by
  unfold Verification.examine examined
  split <;> rfl

theorem Act.execute_verify (driver : Driver σ) (context : StepContext)
    {step : Step} {selector expected : String}
    (action : step.action = .verify selector expected) {world begun : World σ}
    (ready : setUpLog world = (.ok (), begun)) :
    ∃ answers duration result after,
      execute driver context step world = (result, after) ∧
      Recites driver world (step.inquiry context.settings selector)
        answers after ∧
      ∀ texts, answers = .ok texts → ∃ shown found, texts = [shown, found] ∧
        result = .ok (step.examined expected duration found) := by
  have speaks :=
    speaks_carryOut_verify driver context action (isSome_of_setUpLog ready)
  obtain ⟨answers, duration, after, recital, executed⟩ :=
    execute_of_speaks ready speaks
  refine ⟨answers, duration, _, after, executed, recital, ?_⟩
  intro texts answered
  obtain ⟨_, _, _, _, whole, _⟩ := recital.made
  obtain ⟨shown, found, rfl⟩ := List.length_eq_two.mp (whole texts answered).2
  refine ⟨shown, found, rfl, ?_⟩
  rw [answered]
  exact step.judged_examine expected duration found

/-- A verify step waits for its element, asks for its text, and succeeds exactly
if the expected text occurs in the answer, both in lower case. An occurrence of
the expected text as it stands is found if its capital sigmas have the same
forms there as in the expected text, and all occurrences are found exactly if
that text is steady, as every text without capital sigmas is. -/
theorem Act.verify_accepts_occurrences (driver : Driver σ)
    (context : StepContext) {step : Step} {selector expected : String}
    (action : step.action = .verify selector expected) {world begun : World σ}
    (ready : setUpLog world = (.ok (), begun)) :
    (∃ answers duration result after,
      execute driver context step world = (result, after) ∧
      Recites driver world (step.inquiry context.settings selector)
        answers after ∧
      ∀ texts, answers = .ok texts → ∃ shown found, texts = [shown, found] ∧
        result = .ok (step.examined expected duration found)) ∧
      (∀ duration found,
          (step.examined expected duration found).success = true ↔
        Verification.holds expected found = true) ∧
      (∀ (found : String) (before behind : List Char),
        found.toList = before ++ expected.toList ++ behind →
          SameForms before.reverse behind [] [] expected.toList →
            Verification.holds expected found = true) ∧
      ((∀ found : String, expected.toList <:+: found.toList →
        Verification.holds expected found = true) ↔ Steady expected.toList) ∧
      ('Σ' ∉ expected.toList → Steady expected.toList) := by
  refine ⟨execute_verify driver context action ready, ?_, ?_,
    Verification.holds_of_infix_iff, steady_of_notMem⟩
  · intro duration found
    unfold Step.examined
    split <;> simp_all
  · intro found before behind occurs same
    exact Verification.holds_of_sameForms occurs same

/-- The answer of a page whose elements all have one text. -/
private def readingOf (text : String) : Call → String
  | .textContent _ => text
  | _ => ""

/-- A session on a page whose elements all have one text. -/
private def reading (text : String) : Driver Unit where
  launch _ _ _ := ⟨.ok (), 0, ()⟩
  perform _ call _ := ⟨.ok (readingOf text call), 0, ()⟩
  release _ _ := ⟨.ok (), 0, ()⟩

private theorem Recites.answers_of_reading {text : String}
    {world after : World Unit} {script : List Call}
    {answers : Except Fault (List String)}
    (pictures : ∀ path, .screenshot path ∉ script)
    (recital : Recites (reading text) world script answers after) :
    answers = .ok (script.map (readingOf text)) := by
  have asked (call : Call) (start : World Unit)
      (picture : ∀ path, call ≠ .screenshot path) :
      (perform (reading text) call start).1 = .ok (readingOf text call) := by
    cases call with
    | screenshot path => exact (picture path rfl).elim
    | _ => rfl
  induction recital with
  | done quiet => rfl
  | @answered before start between after call calls answer result quiet given
    _ induction =>
      simp only [List.mem_cons, not_or] at pictures
      have known :=
        asked call start fun path same => (pictures path).1 same.symm
      rw [given] at known
      cases known
      rw [induction fun path => (pictures path).2]
      rfl
  | @failed before start between after call unmade fault quiet given later =>
      simp only [List.mem_cons, not_or] at pictures
      have known :=
        asked call start fun path same => (pictures path).1 same.symm
      rw [given] at known
      cases known

/-- A word that is found in whatever it occurs in is read off a page. -/
theorem Act.verify_accepts_occurrences_steady :
    let world : World Unit := .before () ⟨[], []⟩
    let context : StepContext := ⟨.rehearsal, .off, "", ⟨.root, []⟩⟩
    let step : Step := ⟨.verify "h1" "ΣΗΜΑ", none, []⟩
    ∃ duration result after,
      execute (reading "ΤΟ ΣΗΜΑ") context step world = (.ok result, after) ∧
      Recites (reading "ΤΟ ΣΗΜΑ") world [.waitFor "h1" .attached 10000,
          .textContent "h1"]
        (.ok ["", "ΤΟ ΣΗΜΑ"]) after ∧
      result = step.examined "ΣΗΜΑ" duration "ΤΟ ΣΗΜΑ" ∧
        result.success = true := by
  intro world context step
  have ready : setUpLog world = (.ok (), world) := setUpLog_of_isSome rfl
  have action : step.action = .verify "h1" "ΣΗΜΑ" := rfl
  obtain ⟨⟨answers, duration, result, after, executed, recital, outcome⟩,
      success, -, everywhere, -⟩ :=
    verify_accepts_occurrences (reading "ΤΟ ΣΗΜΑ") context action ready
  have answered := recital.answers_of_reading (by simp [Step.inquiry])
  obtain ⟨shown, found, texts, rfl⟩ := outcome _ answered
  cases texts
  rw [answered] at recital
  have steady : Steady "ΣΗΜΑ".toList := by
    decide +kernel
  have occurs : "ΣΗΜΑ".toList <:+: "ΤΟ ΣΗΜΑ".toList := by
    decide +kernel
  refine ⟨duration, _, after, executed, recital, rfl, ?_⟩
  exact (success duration _).mpr (everywhere.mpr steady _ occurs)

/-- At the end of a word the last sigma of the expected text is a final one, in
a longer word it is not: the step fails on a text in which the expected one
occurs as it stands. -/
theorem Act.verify_refuses_occurrence :
    let world : World Unit := .before () ⟨[], []⟩
    let context : StepContext := ⟨.rehearsal, .off, "", ⟨.root, []⟩⟩
    let step : Step := ⟨.verify "h1" "ΠΡΟΣ", none, []⟩
    "ΠΡΟΣ".toList <:+: "ΠΡΟΣΘΗΚΗ".toList ∧
      ∃ result after,
        execute (reading "ΠΡΟΣΘΗΚΗ") context step world = (.ok result, after) ∧
        Recites (reading "ΠΡΟΣΘΗΚΗ") world [.waitFor "h1" .attached 10000,
            .textContent "h1"]
          (.ok ["", "ΠΡΟΣΘΗΚΗ"]) after ∧
        result.success = false := by
  intro world context step
  have ready : setUpLog world = (.ok (), world) := setUpLog_of_isSome rfl
  have action : step.action = .verify "h1" "ΠΡΟΣ" := rfl
  obtain ⟨answers, duration, result, after, executed, recital, outcome⟩ :=
    execute_verify (reading "ΠΡΟΣΘΗΚΗ") context action ready
  have answered := recital.answers_of_reading (by simp [Step.inquiry])
  obtain ⟨shown, found, texts, rfl⟩ := outcome _ answered
  cases texts
  rw [answered] at recital
  have lost : Verification.holds "ΠΡΟΣ" "ΠΡΟΣΘΗΚΗ" = false := by
    decide +kernel
  have occurs : "ΠΡΟΣ".toList <:+: "ΠΡΟΣΘΗΚΗ".toList := by
    decide +kernel
  refine ⟨occurs, _, after, executed, recital, ?_⟩
  unfold Step.examined
  rw [if_neg (by simp [readingOf, lost])]

end PageFlow
