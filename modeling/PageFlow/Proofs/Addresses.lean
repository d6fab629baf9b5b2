import PageFlow.Proofs.Attempts

/-!
# Addresses

In the session of a run the browser goes to the targets of the first navigations
of the flow, in order and nowhere else. A target that is not absolute is put
behind the base address of the run.
-/

namespace PageFlow

open Act

variable {σ α : Type} {driver : Driver σ} {context : StepContext}
  {options : RunOptions}

/-! ## Calls -/

def Call.address? : Call → Option String
  | .goto url _ => some url
  | _ => none

def SessionEvent.address? : SessionEvent → Option String
  | .called call => call.address?
  | _ => none

def World.addresses (world : World σ) : List String :=
  world.events.filterMap SessionEvent.address?

def Step.target? (step : Step) : Option String :=
  match step.action with
  | .navigate url => some url
  | _ => none

/-- The addresses that steps go to from a base address: their targets, or the
targets behind the base address where these do not begin with `http`. -/
def Step.addresses (baseUrl : String) (steps : List Step) : List String :=
  (steps.filterMap Step.target?).map fun target =>
    if "http".toList <+: target.toList then target else baseUrl ++ target

theorem Step.addresses_append (baseUrl : String) (steps later : List Step) :
    addresses baseUrl (steps ++ later) = addresses baseUrl steps ++
      addresses baseUrl later := by
  rw [addresses, List.filterMap_append, List.map_append]
  rfl

/-- Nowhere is gone to. -/
def Frame.staying : Frame σ :=
  .keeping World.addresses

theorem Frame.staying_of_quiet {before after : World σ}
    (quiet : before.Quiet after) :
    Frame.staying.allows before after :=
  congrArg (List.filterMap SessionEvent.address?) quiet.events

theorem Frame.staying_admitsTelling : (Frame.staying : Frame σ).AdmitsTelling :=
  quiet_admitsTelling.weaken staying_of_quiet

theorem Frame.staying_admitsDelays : (Frame.staying : Frame σ).AdmitsDelays :=
  quiet_admitsDelays.weaken staying_of_quiet

namespace Act

theorem addresses_perform (driver : Driver σ) (call : Call) (world : World σ) :
    (perform driver call world).2.addresses =
      world.addresses ++ call.address?.toList := by
  rw [World.addresses, perform_events, List.filterMap_append, ← World.addresses]
  cases call <;> rfl

theorem staying_perform {call : Call} (nowhere : call.address? = none) :
    (perform driver call).Within .staying := by
  intro world
  have gone := addresses_perform driver call world
  rwa [nowhere, Option.toList_none, List.append_nil] at gone

end Act

/-! ## Steps -/

def Move.address? : Move → Option String
  | .call asked => asked.address?
  | _ => none

theorem Step.moves_address {step : Step} (stays : step.target? = none)
    (settings : Settings) (baseUrl : String) :
    ∀ move ∈ step.moves settings baseUrl, move.address? = none := by
  intro move member
  unfold Step.moves at member
  cases action : step.action <;>
    simp only [action, List.mem_cons, List.not_mem_nil, or_false,
      List.mem_append, List.mem_map] at member
  case navigate url => simp [target?, action] at stays
  case type selector text =>
    rcases member with (rfl | rfl | rfl) | ⟨c, _, rfl⟩ <;> rfl
  all_goals
    rcases member with rfl | rfl | rfl <;> rfl

namespace Act

theorem staying_makeMove {move : Move} (nowhere : move.address? = none) :
    (makeMove driver context move).Within .staying := by
  have telling := Frame.staying_admitsTelling (σ := σ)
  have delays := Frame.staying_admitsDelays (σ := σ)
  cases move with
  | call call =>
      exact within_bind (staying_perform nowhere) fun _ => within_pure _
  | pause =>
      exact within_bind (within_delay delays _ _ _) fun _ =>
        within_bind (within_sleepWhole delays _) fun _ => within_pure _
  | key locator character =>
      exact within_bind (within_delay delays _ _ _) fun _ =>
        within_bind (staying_perform rfl) fun _ => within_pure _
  | picture label =>
      refine within_bind ?_ fun _ => within_pure _
      exact within_bind (within_logger telling.toAdmitsLogging _) fun _ =>
        within_bind (within_ask _) fun _ =>
          within_bind (telling.makeDirectory _) fun _ =>
        within_bind (staying_perform rfl) fun _ =>
          within_bind (telling.log _ _ _) fun _ =>
        within_pure _
  | check locator expected =>
      refine within_bind (staying_perform rfl) fun found => ?_
      split
      · exact within_pure _
      · exact within_fail _
  | rest ms => exact within_bind (within_sleep delays _) fun _ => within_pure _
  | refuse reason raw => exact within_refuse _ _

theorem staying_makeMoves {moves : List Move}
    (nowhere : ∀ move ∈ moves, move.address? = none) :
    (makeMoves driver context moves).Within .staying := by
  induction moves with
  | nil => exact within_pure _
  | cons move moves induction =>
      obtain ⟨here, later⟩ := List.forall_mem_cons.mp nowhere
      exact within_bind (staying_makeMove here) fun _ =>
        within_bind (induction later) fun _ =>
        within_pure _

/-- Where the log was set up, taking the time of an act says no more than a line
of the log. -/
theorem quiet_timed {world : World σ} (ready : world.log.threshold.isSome)
    (level : LogLevel) (label : String) (act : Act σ α) :
    (act world).2.Quiet (timed level label act world).2 := by
  have started :
      (milliseconds : Act σ Int) world = (.ok world.milliseconds, world) :=
    rfl
  rw [timed, bind_of_ok (logger_of_isSome ready _), bind_of_ok started,
    ensuring_snd]
  exact within_bind (within_ask _)
    (fun _ => Frame.quiet_admitsTelling.log _ _ _) (act world).2

/-- A step goes to the address of its target if it navigates, and nowhere
else. -/
theorem addresses_carryOut (step : Step) {world : World σ}
    (ready : world.log.threshold.isSome) :
    (carryOut driver context step world).2.addresses =
      world.addresses ++ Step.addresses context.baseUrl [step] := by
  have moved :
      (makeMoves driver context (step.moves context.settings context.baseUrl)
        world).2.addresses = world.addresses ++ Step.addresses
        context.baseUrl [step] := by
    cases target : step.target? with
    | none =>
        have nowhere : Step.addresses context.baseUrl [step] = [] := by
          simp [Step.addresses, target]
        rw [nowhere, List.append_nil]
        exact staying_makeMoves (step.moves_address target _ _) world
    | some url =>
        have navigates : step.action = .navigate url := by
          unfold Step.target? at target
          split at target
          · rename_i there action
            rw [action, Option.some.inj target]
          · cases target
        let asked : Act σ String :=
          perform driver (.goto (Locator.resolveUrl url context.baseUrl)
            (step.limit context.settings.navigationTimeout))
        have called :
            makeMoves driver context
              (step.moves context.settings context.baseUrl) =
            asked >>= fun _ => pure none := by
          simp [asked, Step.moves, navigates, makeMoves_call, makeMoves]
        have gone : (asked world).2.addresses =
            world.addresses ++ Step.addresses context.baseUrl [step] := by
          have there : Step.addresses context.baseUrl [step] =
              [Locator.resolveUrl url context.baseUrl] := by
            simp [Step.addresses, target, Locator.resolveUrl]
          rw [there]
          exact addresses_perform driver _ world
        have behind :
            Frame.staying.allows (asked world).2
              ((asked >>= fun _ => pure none) world).2 :=
          allows_of_bind asked (fun _ => within_pure (none : Option Path)) world
        rw [called]
        exact behind.trans gone
  unfold carryOut
  split
  · exact (Frame.staying_of_quiet (quiet_timed ready _ _ _)).trans moved
  · exact moved

/-- A step that has an outcome went to the address of its target; without an
outcome it may not have got that far. -/
theorem addresses_execute {step : Step} {world after : World σ}
    {result : Except Fault Outcome}
    (executed : execute driver context step world = (result, after)) :
    after.addresses = world.addresses ++ Step.addresses context.baseUrl [step] ∨
      (∃ fault, result = .error fault) ∧ after.addresses = world.addresses := by
  rcases ready : setUpLog world with ⟨fault | _, begun⟩
  · refine .inr ?_
    have unnamed :
        logger "stepflow.core.actions" world = (.error fault, begun) := by
      rw [logger, bind_of_error ready]
    have quiet := quiet_setUpLog world
    rw [ready] at quiet
    rw [execute, bind_of_error unnamed] at executed
    cases executed
    exact ⟨⟨fault, rfl⟩, Frame.staying_of_quiet quiet⟩
  · refine .inl ?_
    have quiet := quiet_setUpLog world
    rw [ready] at quiet
    obtain ⟨duration, finish, -, left, same⟩ :=
      execute_eq driver context ready step
    cases executed.symm.trans same
    rw [Frame.staying_of_quiet left,
      addresses_carryOut step (isSome_of_setUpLog ready),
      Frame.staying_of_quiet quiet]

end Act

/-! ## Runs -/

namespace Runner

/-- Steps go to the addresses of the first targets. Those that have outcomes
went there. -/
theorem addresses_runSteps {log : Logger} {total index : Nat}
    {steps : List Step} {tally : Tally} {world after : World σ}
    {result : Except Fault Tally}
    (ended : runSteps driver context options log total index steps tally world =
      (result, after)) :
    ∃ count ≤ steps.length,
      after.addresses = world.addresses ++ Step.addresses context.baseUrl
        (steps.take count) ∧
      ∀ final, result = .ok final →
        final.outcomes.length = tally.outcomes.length + count := by
  induction steps generalizing index tally world with
  | nil =>
      cases ended
      exact ⟨0, Nat.le_refl 0, (List.append_nil _).symm, by rintro _ ⟨⟩; rfl⟩
  | cons step steps induction =>
      rw [runSteps, withContext, ask_bind] at ended
      rcases executed : execute driver context step world
        with ⟨fault | outcome, finish⟩
      · rw [bind_of_error executed] at ended
        cases ended
        rcases addresses_execute executed with went | ⟨-, stayed⟩
        · exact ⟨1, by simp, went, by rintro _ ⟨⟩⟩
        · refine ⟨0, by simp, ?_, by rintro _ ⟨⟩⟩
          simpa [Step.addresses] using stayed
      · have went :
            finish.addresses = world.addresses ++ Step.addresses
              context.baseUrl [step] :=
          (addresses_execute executed).resolve_right (by rintro ⟨⟨_, ⟨⟩⟩, _⟩)
        rw [bind_of_ok executed] at ended
        let stepLog := world.log.withContext log
          [("step_index", .int index), ("action", .text step.action.name)]
        rcases telling : tellStep options stepLog index total outcome finish
          with ⟨fault | _, told⟩
        all_goals
          have quiet : Frame.staying.allows finish told :=
            (within_tellStep Frame.staying_admitsTelling _ _ _ _).allows telling
        · rw [bind_of_error telling] at ended
          cases ended
          exact ⟨1, by simp, quiet.trans went, by rintro _ ⟨⟩⟩
        · rw [bind_of_ok telling] at ended
          split at ended
          · obtain ⟨_, last, logging⟩ :=
              total_log stepLog .info (stopText index total) told
            have ending : Frame.staying.allows told last :=
              (Frame.staying_admitsTelling.log _ _ _).allows logging
            rw [bind_of_ok logging] at ended
            cases ended
            refine ⟨1, by simp, ending.trans (quiet.trans went), ?_⟩
            rintro _ ⟨⟩
            simp [Tally.add]
          · obtain ⟨count, least, later, outcomes⟩ := induction ended
            refine ⟨count + 1, by simpa using least, ?_, fun final same => ?_⟩
            · have first :
                  step :: steps.take count = [step] ++ steps.take count :=
                rfl
              rw [later, quiet, went, List.take_succ_cons, first,
                Step.addresses_append, List.append_assoc]
            · rw [outcomes final same]
              simp [Tally.add]
              omega

end Runner

/-- Between two worlds a flow went to the addresses of its first targets. If
there is a result, it is one of the flow with this base address, and the targets
are those of the steps that have outcomes. -/
def Flow.Travels (flow : Flow) (baseUrl : String) (before : World σ)
    (result : Except Fault RunResult) (after : World σ) : Prop :=
  ∃ count ≤ flow.steps.length,
    after.addresses = before.addresses ++ Step.addresses baseUrl
      (flow.steps.take count) ∧
    ∀ final, result = .ok final →
      final.name = flow.name ∧ final.baseUrl = baseUrl ∧
        final.steps.length = count

namespace Flow.Travels

variable {flow : Flow} {baseUrl : String} {before start after finish : World σ}
  {result : Except Fault RunResult}

theorem of_staying (staying : Frame.staying.allows before after)
    (fault : Fault) :
    flow.Travels baseUrl before (.error fault) after := by
  have nowhere : Step.addresses baseUrl (flow.steps.take 0) = [] := rfl
  refine ⟨0, Nat.zero_le _, ?_, by rintro _ ⟨⟩⟩
  rw [nowhere, List.append_nil]
  exact staying

theorem staying_left (travels : flow.Travels baseUrl start result after)
    (staying : Frame.staying.allows before start) :
    flow.Travels baseUrl before result after := by
  obtain ⟨count, least, went, outcomes⟩ := travels
  exact ⟨count, least, went.trans (congrArg (· ++ _) staying), outcomes⟩

theorem staying_right (travels : flow.Travels baseUrl before result after)
    (staying : Frame.staying.allows after finish) :
    flow.Travels baseUrl before result finish := by
  obtain ⟨count, least, went, outcomes⟩ := travels
  exact ⟨count, least, staying.trans went, outcomes⟩

/-- A fault in place of the result changes nothing of where a flow went. -/
theorem failed (travels : flow.Travels baseUrl before result after)
    (fault : Fault) :
    flow.Travels baseUrl before (.error fault) after := by
  obtain ⟨count, least, went, -⟩ := travels
  exact ⟨count, least, went, by rintro _ ⟨⟩⟩

end Flow.Travels

namespace Runner

variable {runner : Runner} {flow : Flow} {world after : World σ}
  {result : Except Fault RunResult}

theorem hold_travels {log : Logger} {time : Int}
    (ended : runner.hold driver options flow log time world = (result, after)) :
    flow.Travels (runner.contextFor options flow).baseUrl world
      result after := by
  let headless := options.headless.getD runner.settings.headless
  let steps :=
    runSteps driver (runner.contextFor options flow) options log
      flow.steps.length 1
      flow.steps .start
  have opening :
      Frame.staying.allows world (world.launched driver headless) := by
    simp [Frame.staying, Frame.keeping, World.addresses, World.launched,
      World.noting, SessionEvent.address?]
  rw [hold] at ended
  rcases opens : (driver.launch world.clock headless world.session).answer
    with fault | _
  · rw [bind_of_error (withSession_of_refusal opens)] at ended
    cases ended
    exact .of_staying opening _
  · rcases acted : steps (world.launched driver headless)
      with ⟨outcome, between⟩
    have closing : Frame.staying.allows between (between.released driver) := by
      simp [Frame.staying, Frame.keeping, World.addresses, World.released,
        World.noting, SessionEvent.address?]
    obtain ⟨count, least, went, outcomes⟩ := addresses_runSteps acted
    have gone : (between.released driver).addresses = world.addresses ++
        Step.addresses (runner.contextFor options flow).baseUrl
          (flow.steps.take count) :=
      closing.trans (went.trans (congrArg (· ++ _) opening))
    have held := withSession_of_launch opens acted
    cases closes : (driver.release between.clock between.session).answer with
    | error fault =>
        rw [closes] at held
        rw [bind_of_error held] at ended
        cases ended
        exact ⟨count, least, gone, by rintro _ ⟨⟩⟩
    | ok _ =>
        rw [closes] at held
        cases outcome with
        | error fault =>
            rw [bind_of_error held] at ended
            cases ended
            exact ⟨count, least, gone, by rintro _ ⟨⟩⟩
        | ok tally =>
            rw [bind_of_ok held] at ended
            cases ended
            refine ⟨count, least, gone, ?_⟩
            rintro _ ⟨⟩
            exact ⟨rfl, rfl, (outcomes tally rfl).trans (Nat.zero_add count)⟩

theorem runFlow_travels
    (ended : runner.runFlow driver options flow world = (result, after)) :
    flow.Travels (runner.contextFor options flow).baseUrl world
      result after := by
  rw [runFlow_eq_parts] at ended
  rcases preparing : runner.prepare options flow world
    with ⟨fault | ⟨log, time⟩, begun⟩
  all_goals
    have before : Frame.staying.allows world begun :=
      (within_prepare Frame.staying_admitsTelling _ _ _).allows preparing
  · rw [bind_of_error preparing] at ended
    cases ended
    exact .of_staying before fault
  · rw [bind_of_ok preparing] at ended
    rcases holding : runner.hold driver options flow log time begun
      with ⟨fault | held, closed⟩
    all_goals have travels := (hold_travels holding).staying_left before
    · rw [bind_of_error holding] at ended
      cases ended
      exact travels
    · rw [bind_of_ok holding] at ended
      have behind : Frame.staying.allows closed after :=
        Frame.staying_of_quiet
          ((quiet_conclude runner options _ _).allows ended)
      cases result with
      | error fault => exact (travels.failed fault).staying_right behind
      | ok told =>
          rw [result_of_conclude ended]
          exact travels.staying_right behind

end Runner

end PageFlow
