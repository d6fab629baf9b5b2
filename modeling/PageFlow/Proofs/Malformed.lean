import PageFlow.CommandLine.Targets
import PageFlow.Proofs.Attempts

/-!
# Malformed steps

A malformed step stays in its place. Attempting it always fails with its reason
and asks nothing of the session, so that the outcomes of a complete run show the
same malformed steps as a look at the flow.
-/

namespace PageFlow

open Act

variable {σ : Type} {driver : Driver σ} {context : StepContext}

/-! ## Attempts -/

theorem Act.carryOut_malformed {step : Step} {reason : String}
    (malformed : step.action = .malformed reason) (world : World σ) :
    carryOut driver context step world =
      (.error (Step.refusal reason step.raw), world) := by
  have moves : step.moves context.settings context.baseUrl =
      [.refuse reason step.raw] := by
    unfold Step.moves
    rw [malformed]
  have untimed : ¬ step.action.isTimed := by
    rw [malformed]
    exact Bool.false_ne_true
  rw [carryOut, if_neg untimed, moves, makeMoves_cons, makeMove, refuse_eq]
  rfl

theorem Act.execute_malformed {step : Step} {reason : String}
    {outcome : Outcome} {world after : World σ}
    (malformed : step.action = .malformed reason)
    (executed : execute driver context step world = (.ok outcome, after)) :
    outcome.success = false ∧
      outcome.error = some (Step.refusal reason step.raw).message ∧
      world.Quiet after := by
  obtain ⟨_, between, named, _⟩ := bind_eq_ok.mp executed
  obtain ⟨_, begun, ready, _⟩ := bind_eq_ok.mp named
  obtain ⟨duration, finish, _, quiet, result⟩ :=
    execute_eq driver context ready step
  rw [carryOut_malformed malformed] at quiet result
  rw [executed, Step.judged, if_neg (by simp [Step.exits_of_refusal])] at result
  cases result
  refine ⟨rfl, rfl, Frame.quiet.trans ?_ quiet⟩
  have opening := quiet_setUpLog world
  rwa [ready] at opening

/-- The attempt of a malformed step fails with its reason and makes no calls. -/
theorem Attempts.malformed {before after : World σ} {attempts : List Attempt}
    {attempt : Attempt} {reason : String}
    (attempted : Attempts driver context before attempts after)
    (member : attempt ∈ attempts)
    (malformed : attempt.outcome.step.action = .malformed reason) :
    attempt.outcome.success = false ∧
      attempt.outcome.error =
        some (Step.refusal reason attempt.outcome.step.raw).message ∧
      attempt.calls = [] := by
  induction attempted with
  | done quiet => cases member
  | next _ executed events _ induction =>
      rcases List.mem_cons.mp member with rfl | later
      · obtain ⟨failure, error, quiet⟩ := execute_malformed malformed executed
        refine ⟨failure, error, ?_⟩
        rw [quiet.events] at events
        simpa using events
      · exact induction later

/-! ## Numbers -/

theorem Flow.mem_malformedFrom {next number : Nat} {step : Step}
    {steps : List Step} :
    (number, step) ∈ malformedFrom next steps ↔
      ∃ index, number = next + index ∧ steps[index]? = some step ∧
        step.isMalformed := by
  induction steps generalizing next with
  | nil => simp [malformedFrom]
  | cons first steps induction =>
      have later : (number, step) ∈ malformedFrom (next + 1) steps ↔
          ∃ index, number = next + (index + 1) ∧
            (first :: steps)[index + 1]? = some step ∧
            step.isMalformed := by
        rw [induction]
        simp only [List.getElem?_cons_succ]
        constructor
        · rintro ⟨index, rfl, found⟩
          exact ⟨index, by omega, found⟩
        · rintro ⟨index, rfl, found⟩
          exact ⟨index, by omega, found⟩
      rw [malformedFrom]
      constructor
      · intro member
        split at member
        · rename_i malformed
          rcases List.mem_cons.mp member with here | among
          · cases here
            exact ⟨0, rfl, rfl, malformed⟩
          · obtain ⟨index, found⟩ := later.mp among
            exact ⟨index + 1, found⟩
        · obtain ⟨index, found⟩ := later.mp member
          exact ⟨index + 1, found⟩
      · rintro ⟨index, same, found, malformed⟩
        cases index with
        | zero =>
            cases found
            rw [if_pos malformed, same]
            exact List.mem_cons_self
        | succ index =>
            have member := later.mpr ⟨index, same, found, malformed⟩
            split
            · exact List.mem_cons_of_mem _ member
            · exact member

theorem Flow.mem_malformedSteps {flow : Flow} {index : Nat} {step : Step}
    (found : flow.steps[index]? = some step) :
    (index + 1, step) ∈ flow.malformedSteps ↔ step.isMalformed := by
  rw [malformedSteps, mem_malformedFrom]
  constructor
  · rintro ⟨_, _, _, malformed⟩
    exact malformed
  · intro malformed
    exact ⟨index, Nat.add_comm index 1, found, malformed⟩

theorem Flow.malformedSteps_eq_nil {flow : Flow}
    (sound : ∀ step ∈ flow.steps, step.isMalformed = false) :
    flow.malformedSteps = [] := by
  rw [List.eq_nil_iff_forall_not_mem]
  rintro ⟨number, step⟩ member
  obtain ⟨index, _, found, malformed⟩ := mem_malformedFrom.mp member
  rw [sound step (List.mem_of_getElem? found)] at malformed
  cases malformed

/-! ## Reasons -/

namespace Step

theorem message_of_refusal {step : Step} {reason : String}
    (malformed : step.action = .malformed reason)
    (told : CommandLine.reasonOf step ≠ "") :
    (refusal reason step.raw).message = CommandLine.reasonOf step := by
  rw [CommandLine.reasonOf, malformed] at told ⊢
  rw [refusal, if_neg (by simpa using told)]
  rfl

private theorem reasonOf_of_malformed {opening : String} {quoted : Value}
    {raw : List (Value × Value)} {step : Step} (opens : opening ≠ "")
    (read : malformed? opening quoted raw = .ok step) :
    CommandLine.reasonOf step ≠ "" := by
  rw [malformed?] at read
  split at read
  · cases read
  · split at read
    · cases read
      intro empty
      exact opens (String.append_eq_empty_iff.mp empty).1
    · cases read

private theorem isMalformed_of_readAction {tag : Tag} {value companion : Value}
    {action : Action} (read : readAction tag value companion = .ok action) :
    action.isMalformed = false := by
  have one {build : String → Action}
      (sound : ∀ text, (build text).isMalformed = false)
      (read : readAction.one tag value build = .ok action) :
        action.isMalformed = false := by
    obtain ⟨text, _, rfl⟩ := exists_of_map_eq_ok read
    exact sound text
  have two {build : String → String → Action}
      (sound : ∀ first second, (build first second).isMalformed = false)
      (read : readAction.two tag value companion build = .ok action) :
      action.isMalformed = false := by
    unfold readAction.two at read
    dsimp only at read
    split at read <;> cases read
    exact sound _ _
  cases tag with
  | wait =>
      obtain ⟨ms, _, rfl⟩ := exists_of_map_eq_ok read
      rfl
  | type | verify | select => exact two (fun _ _ => rfl) read
  | _ => exact one (fun _ => rfl) read

theorem reasonOf_of_read {value : Value} {step : Step}
    (read : Step.read value = .ok step) (malformed : step.isMalformed) :
    CommandLine.reasonOf step ≠ "" := by
  have object {raw : List (Value × Value)} (read : readObject raw = .ok step) :
      CommandLine.reasonOf step ≠ "" := by
    unfold readObject at read
    split at read
    · exact reasonOf_of_malformed (by simp) read
    · split at read
      · exact reasonOf_of_malformed (by simp) read
      · split at read
        · rename_i fields
          cases read
          unfold readFields at fields
          dsimp only at fields
          split at fields
          · rename_i action
            cases fields
            rw [isMalformed, isMalformed_of_readAction action] at malformed
            cases malformed
          · cases fields
        · exact reasonOf_of_malformed (by simp) read
  cases value with
  | dict raw => exact object read
  | _ =>
      simp only [Step.read] at read
      exact reasonOf_of_malformed (by simp) read

end Step

namespace Flow

private theorem reasonOf_of_readStepList {values : List Value}
    {steps : List Step} (read : readStepList values = .ok steps) :
    ∀ step ∈ steps, step.isMalformed → CommandLine.reasonOf step ≠ "" := by
  induction values generalizing steps with
  | nil =>
      cases read
      simp
  | cons value values induction =>
      rw [readStepList] at read
      cases first : Step.read value with
      | error fault =>
          rw [first] at read
          cases read
      | ok step =>
          rw [first] at read
          cases rest : readStepList values with
          | error fault =>
              rw [rest] at read
              cases read
          | ok later =>
              rw [rest] at read
              cases read
              intro member among malformed
              rcases List.mem_cons.mp among with rfl | among
              · exact Step.reasonOf_of_read first malformed
              · exact induction rest member among malformed

theorem reasonOf_of_ofValue {environment : Environment} {source : String}
    {value : Value} {flow : Flow}
    (read : ofValue environment source value = .ok flow) :
    ∀ step ∈ flow.steps, step.isMalformed → CommandLine.reasonOf step ≠ "" := by
  cases value with
  | dict entries =>
      rw [ofValue] at read
      split at read
      · cases read
      rw [ofEntries] at read
      split at read
      · cases read
      · rename_i steps found
        split at read
        · cases read
          unfold readSteps at found
          split at found
          · cases found
          · split at found
            · rename_i listed
              cases found
              exact reasonOf_of_readStepList listed
            · cases found
            · cases found
            · cases found
          · cases found
        · cases read
  | _ => cases read

end Flow

/-! ## Runs -/

namespace Runner

variable {runner : Runner} {options : RunOptions} {source : FlowSource}
  {flow : Flow} {world after : World σ} {result : RunResult}

theorem runFlow_of_runSource
    (loaded : loadFlow source world = (.ok flow, world))
    (ran : runner.runSource driver options source world = (.ok result, after)) :
    runner.runFlow driver options flow world = (.ok result, after) := by
  rwa [runSource, bind_of_ok loaded] at ran

theorem malformedSteps_of_failed
    (loaded : loadFlow source world = (.ok flow, world))
    (ran : runner.runSource driver options source world = (.ok result, after))
    (clean : result.failed = 0) : flow.malformedSteps = [] := by
  obtain ⟨attempts, start, finish, duration, attempted, rfl, sequence,
      conclusion, _⟩ :=
    runFlow_attempts (runFlow_of_runSource loaded ran)
  have none : (attempts.map (·.outcome)).countP (!·.success) = 0 :=
    Int.ofNat.inj clean
  have successes : ∀ attempt ∈ attempts, attempt.outcome.success := by
    simpa [List.countP_eq_zero] using none
  have complete : attempts.length = flow.steps.length := by
    unfold Concludes at conclusion
    split at conclusion
    · rcases conclusion with whole | ⟨earlier, last, split, _, failure⟩
      · simpa using whole.1
      · have among : last ∈ attempts.map (·.outcome) := by simp [split]
        obtain ⟨attempt, member, rfl⟩ := List.mem_map.mp among
        rw [successes attempt member] at failure
        cases failure
    · simpa using conclusion
  rw [complete, List.take_length] at sequence
  refine Flow.malformedSteps_eq_nil fun step among => ?_
  rw [← sequence] at among
  obtain ⟨attempt, member, rfl⟩ := List.mem_map.mp among
  cases action : attempt.outcome.step.action with
  | malformed reason =>
      have failure := (attempted.malformed member action).1
      rw [successes attempt member] at failure
      cases failure
  | _ => simp [Step.isMalformed, action, Action.isMalformed]

end Runner

end PageFlow
