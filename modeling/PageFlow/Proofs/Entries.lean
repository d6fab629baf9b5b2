import Mathlib.Tactic.TFAE
import PageFlow.Json.Members
import PageFlow.Proofs.Attempts

/-!
# Entries of reports

A step that failed has an error, a screenshot that was taken has its path, and
no other step has either. So what the entries of a report say, what its summary
counts and what the console is told are one verdict on a run.
-/

namespace PageFlow

open Act Markup

variable {σ : Type} {driver : Driver σ} {context : StepContext}

/-! ## Outcomes of steps -/

def Move.isPicture : Move → Bool
  | .picture _ => true
  | _ => false

/-- The page is to be pictured. -/
def Action.isScreenshot : Action → Bool
  | .screenshot _ => true
  | _ => false

theorem Step.isPicture_moves (settings : Settings) (baseUrl : String)
    (step : Step) :
    (step.moves settings baseUrl).any Move.isPicture =
      step.action.isScreenshot := by
  unfold moves
  cases step.action <;> simp [Move.isPicture, Action.isScreenshot]

namespace Act

theorem isSome_of_makeMove {move : Move} {picture : Option Path}
    {world after : World σ}
    (made : makeMove driver context move world = (.ok picture, after)) :
    picture.isSome = move.isPicture := by
  cases move with
  | call _ | picture _ | rest _ =>
      obtain ⟨_, _, _, last⟩ := bind_eq_ok.mp made
      cases last
      rfl
  | pause | key _ _ =>
      obtain ⟨_, _, _, rest⟩ := bind_eq_ok.mp made
      obtain ⟨_, _, _, last⟩ := bind_eq_ok.mp rest
      cases last
      rfl
  | check locator expected =>
      obtain ⟨_, _, _, last⟩ := bind_eq_ok.mp made
      split at last <;> cases last
      rfl
  | refuse reason raw =>
      rw [makeMove, refuse_eq] at made
      cases made

/-- Moves that were made give a path exactly if one of them takes a picture. -/
theorem isSome_of_makeMoves {moves : List Move} {picture : Option Path}
    {world after : World σ}
    (made : makeMoves driver context moves world = (.ok picture, after)) :
    picture.isSome = moves.any Move.isPicture := by
  induction moves generalizing picture world with
  | nil =>
      cases made
      rfl
  | cons move moves induction =>
      obtain ⟨first, between, here, rest⟩ := bind_eq_ok.mp made
      obtain ⟨later, last, there, done⟩ := bind_eq_ok.mp rest
      cases done
      rw [Option.isSome_or, isSome_of_makeMove here, induction there,
        List.any_cons]

theorem timed_eq_ok {α : Type} {level : LogLevel} {label : String}
    {act : Act σ α} {value : α} {world after : World σ}
    (ended : timed level label act world = (.ok value, after)) :
    ∃ start between, act start = (.ok value, between) := by
  obtain ⟨_, _, _, rest⟩ := bind_eq_ok.mp ended
  obtain ⟨_, start, _, rest⟩ := bind_eq_ok.mp rest
  obtain ⟨between, done, _⟩ := ensuring_eq_ok rest
  exact ⟨start, between, done⟩

theorem isSome_of_carryOut {step : Step} {picture : Option Path}
    {world after : World σ}
    (done : carryOut driver context step world = (.ok picture, after)) :
    picture.isSome = step.action.isScreenshot := by
  rw [← step.isPicture_moves context.settings context.baseUrl]
  unfold carryOut at done
  split at done
  · obtain ⟨_, _, made⟩ := timed_eq_ok done
    exact isSome_of_makeMoves made
  · exact isSome_of_makeMoves done

end Act

/-- A failed step and no other has an error, a screenshot that was taken and no
other step a path. -/
structure Outcome.WellFormed (outcome : Outcome) : Prop where
  error : outcome.error.isSome = true ↔ outcome.success = false
  screenshot : outcome.screenshot.isSome = true ↔
    outcome.success = true ∧ outcome.step.action.isScreenshot = true

theorem Act.wellFormed_of_execute {step : Step} {outcome : Outcome}
    {world after : World σ}
    (executed : execute driver context step world = (.ok outcome, after)) :
    outcome.WellFormed := by
  obtain ⟨_, _, named, _⟩ := bind_eq_ok.mp executed
  obtain ⟨_, begun, ready, _⟩ := bind_eq_ok.mp named
  obtain ⟨duration, finish, _, _, result⟩ :=
    execute_eq driver context ready step
  rw [executed] at result
  have judged := congrArg Prod.fst result
  rcases done : carryOut driver context step begun
    with ⟨fault | picture, between⟩ <;>
    rw [done, Step.judged] at judged
  · split at judged <;> cases judged
    constructor <;> simp
  · cases judged
    constructor
    · simp
    · simp [isSome_of_carryOut done]

theorem Attempts.wellFormed {before after : World σ} {attempts : List Attempt}
    (attempted : Attempts driver context before attempts after) :
    ∀ attempt ∈ attempts, attempt.outcome.WellFormed := by
  induction attempted with
  | done quiet => simp
  | next quiet executed events later induction =>
      intro attempt member
      rcases List.mem_cons.mp member with rfl | among
      · exact wellFormed_of_execute executed
      · exact induction attempt among

/-- The numbers of a result count its outcomes, all of which are well-formed. -/
structure RunResult.WellFormed (result : RunResult) : Prop where
  outcomes : ∀ outcome ∈ result.steps, outcome.WellFormed
  passed : result.passed = result.steps.countP (·.success)
  failed : result.failed = result.steps.countP (!·.success)

theorem Runner.wellFormed_of_runSource {runner : Runner} {options : RunOptions}
    {source : FlowSource} {world after : World σ} {result : RunResult}
    (ran : runner.runSource driver options source world = (.ok result, after)) :
    result.WellFormed := by
  obtain ⟨flow, loaded, _, flowed⟩ := bind_eq_ok.mp ran
  obtain ⟨attempts, _, _, _, attempted, rfl, _⟩ := runFlow_attempts flowed
  refine ⟨?_, rfl, rfl⟩
  intro outcome member
  obtain ⟨attempt, among, rfl⟩ := List.mem_map.mp member
  exact attempted.wellFormed attempt among

theorem RunResult.WellFormed.success_iff {result : RunResult}
    (formed : result.WellFormed) :
    result.success = true ↔ ∀ outcome ∈ result.steps,
      outcome.success = true := by
  have count : result.success = true ↔
      result.steps.countP (!·.success) = 0 := by
    simp [RunResult.success, formed.failed]
  rw [count, List.countP_eq_zero]
  simp

theorem RunResult.WellFormed.attempted_eq {result : RunResult}
    (formed : result.WellFormed) :
    result.attempted = result.steps.length := by
  have whole := Tally.passed_add_failed result.steps
  rw [RunResult.attempted, formed.passed, formed.failed]
  exact congrArg Int.ofNat whole

/-! ## Report documents -/

def Json.member? (document : Json) (name : String) : Option Json :=
  find? document.members name

namespace Report

/-- An entry tells the outcome of the step with a number. -/
structure Tells (number : Nat) (outcome : Outcome) (entry : Json) : Prop where
  index : entry.member? "index" = some (.int number)
  action : entry.member? "action" = some (.text outcome.step.label)
  success : entry.member? "success" = some (.bool outcome.success)
  error : (entry.member? "error").isSome = true ↔ outcome.success = false
  screenshot : (entry.member? "screenshot").isSome = true ↔
    outcome.success = true ∧ outcome.step.action.isScreenshot = true

theorem error_stepEntry (number : Nat) (outcome : Outcome) :
    (stepEntry number outcome).member? "error" = outcome.error.map .text := by
  rcases outcome with ⟨step, success, duration, _ | error, _ | path⟩ <;> rfl

theorem screenshot_stepEntry (number : Nat) (outcome : Outcome) :
    (stepEntry number outcome).member? "screenshot" =
      outcome.screenshot.map .text := by
  rcases outcome with ⟨step, success, duration, _ | error, _ | path⟩ <;> rfl

theorem tells_stepEntry (number : Nat) {outcome : Outcome}
    (formed : outcome.WellFormed) :
    Tells number outcome (stepEntry number outcome) where
  index := rfl
  action := rfl
  success := rfl
  error := by simp [error_stepEntry, formed.error]
  screenshot := by simp [screenshot_stepEntry, formed.screenshot]

theorem length_stepEntries (next : Nat) (outcomes : List Outcome) :
    (stepEntries next outcomes).length = outcomes.length := by
  induction outcomes generalizing next with
  | nil => rfl
  | cons outcome outcomes induction => simp [stepEntries, induction]

theorem getElem?_stepEntries (next index : Nat) (outcomes : List Outcome) :
    (stepEntries next outcomes)[index]? =
      outcomes[index]?.map (stepEntry (next + index)) := by
  induction outcomes generalizing next index with
  | nil => rfl
  | cons outcome outcomes induction =>
      cases index with
      | zero => rfl
      | succ index =>
          simp [stepEntries, induction, Nat.add_right_comm, Nat.add_assoc]

def countsAs (success : Bool) (entry : Json) : Bool :=
  match entry.member? "success" with
  | some (.bool told) => told == success
  | _ => false

theorem countsAs_stepEntry (success : Bool) (number : Nat) (outcome : Outcome) :
    countsAs success (stepEntry number outcome) =
      (outcome.success == success) :=
  rfl

theorem countP_stepEntries (success : Bool) (next : Nat)
    (outcomes : List Outcome) :
    (stepEntries next outcomes).countP (countsAs success) =
      outcomes.countP fun outcome => outcome.success == success := by
  induction outcomes generalizing next with
  | nil => rfl
  | cons outcome outcomes induction =>
      simp [stepEntries, List.countP_cons, induction, countsAs_stepEntry]

/-! ## The summary on the console -/

/-- What the console is told of a run without failed steps. -/
def passedLine (result : RunResult) : List Part :=
  styled "bold green"
    [.fixed ("\nResult: " ++ Decimal.intText result.passed ++ "/" ++
      Decimal.intText result.total ++ " passed" ++ " ✅")]

/-- What the console is told of a run with failed steps. -/
def failedLine (result : RunResult) : List Part :=
  styled "bold red"
    [.fixed ("\nResult: " ++ Decimal.intText result.passed ++ "/" ++
      Decimal.intText result.total ++ " passed" ++ ", " ++ Decimal.intText
      result.failed ++ " failed ❌")]

theorem verdict_eq (result : RunResult) :
    verdict result = if result.success then passedLine result
      else failedLine result :=
  rfl

theorem infix_joinLines {line : List Part} {lines : List (List Part)}
    (member : line ∈ lines) : line <:+: joinLines lines := by
  induction lines with
  | nil => cases member
  | cons first lines induction =>
      cases lines with
      | nil =>
          rw [List.mem_singleton.mp member]
          exact List.infix_refl first
      | cons second lines =>
          rw [joinLines.eq_3 _ _ (by simp)]
          rcases List.mem_cons.mp member with rfl | later
          · exact (List.prefix_append _ _).isInfix
          · apply (induction later).trans
            exact ((List.suffix_cons _ _).trans
              (List.suffix_append _ _)).isInfix

theorem verdict_infix_summary (result : RunResult) :
    verdict result <:+: summary result := by
  unfold summary
  apply infix_joinLines
  simp

theorem opening_mem_summary {style : String} (result : RunResult)
    (plain : style ≠ "bold") (loud : style ≠ "grey50") :
    .opening style ∈ summary result ↔ .opening style ∈ verdict result := by
  unfold summary
  split <;> simp [joinLines, styled, plain, loud]

theorem passedLine_infix_iff (result : RunResult) :
    passedLine result <:+: summary result ↔ result.success = true := by
  constructor
  · intro occurs
    have opened : .opening "bold green" ∈ summary result :=
      occurs.subset (by simp [passedLine, styled])
    rw [opening_mem_summary result (by decide) (by decide),
      verdict_eq] at opened
    by_contra failed
    simp [failed, failedLine, styled] at opened
  · intro success
    have shown := verdict_infix_summary result
    rwa [verdict_eq, if_pos success] at shown

/-! ## One verdict -/

/-- A report document of a run, with the entries of its steps and its counts,
and the summary on the console agree on the verdict. -/
structure Agrees (result : RunResult) (document : Json) (entries : List Json)
    (counts : Json) : Prop where
  listed : document.member? "steps" = some (.array entries)
  summarized : document.member? "summary" = some counts
  attempted : (entries.length : Int) = result.attempted
  outcomes : entries.length = result.steps.length
  tells : ∀ index outcome, result.steps[index]? = some outcome →
    ∃ entry, entries[index]? = some entry ∧ Tells (index + 1) outcome entry
  passed :
    counts.member? "passed" = some (.int (entries.countP (countsAs true)))
  failed :
    counts.member? "failed" = some (.int (entries.countP (countsAs false)))
  verdicts : [result.success = true,
    counts.member? "success" = some (.bool true),
    passedLine result <:+: summary result,
    ∀ entry ∈ entries, countsAs false entry = false].TFAE

theorem countsAs_false_iff {result : RunResult} (formed : result.WellFormed) :
    (∀ entry ∈ stepEntries 1 result.steps, countsAs false entry = false) ↔
      result.success = true := by
  have quiet :
      (∀ entry ∈ stepEntries 1 result.steps, countsAs false entry = false) ↔
      (stepEntries 1 result.steps).countP (countsAs false) = 0 := by
    simp [List.countP_eq_zero]
  rw [quiet, countP_stepEntries, List.countP_eq_zero, formed.success_iff]
  simp

theorem agrees_document (timestamp : String) {result : RunResult}
    (formed : result.WellFormed) :
    Agrees result (document timestamp result) (stepEntries 1 result.steps)
      (summaryEntry result) where
  listed := rfl
  summarized := rfl
  attempted := by
    rw [formed.attempted_eq, length_stepEntries]
  outcomes := length_stepEntries 1 result.steps
  tells := by
    intro index outcome found
    refine ⟨stepEntry (index + 1) outcome, ?_, ?_⟩
    · rw [getElem?_stepEntries, found, Option.map_some, Nat.add_comm]
    · apply tells_stepEntry
      exact formed.outcomes outcome (List.mem_of_getElem? found)
  passed := by
    rw [countP_stepEntries]
    simp [summaryEntry, Json.member?, Json.members, Json.find?, formed.passed]
  failed := by
    rw [countP_stepEntries]
    simp [summaryEntry, Json.member?, Json.members, Json.find?, formed.failed]
  verdicts := by
    tfae_have 1 ↔ 2 := by
      simp [summaryEntry, Json.member?, Json.members, Json.find?]
    tfae_have 1 ↔ 3 := (passedLine_infix_iff result).symm
    tfae_have 1 ↔ 4 := (countsAs_false_iff formed).symm
    tfae_finish

end Report

end PageFlow
