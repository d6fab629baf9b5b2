import PageFlow.Proofs.Frame

/-!
# Recitals

What the driver sees of an act: the calls of a script, one after another, up to
the first one that fails. Between the calls the session is left alone. A script
stands beside an act as its specification, and the rules for acts below put
scripts together.
-/

namespace PageFlow

variable {σ α β : Type} {driver : Driver σ}

/-- The session is left alone. -/
def Frame.quiet : Frame σ :=
  .keeping fun world => (world.session, world.events)

/-- Nothing happens to the session between two worlds. -/
def World.Quiet (before after : World σ) : Prop :=
  Frame.quiet.allows before after

theorem Frame.quiet_admitsTelling : (Frame.quiet : Frame σ).AdmitsTelling :=
  keeping_admitsTelling fun _ _ _ _ _ => rfl

theorem World.Quiet.events {before after : World σ}
    (quiet : before.Quiet after) : after.events = before.events :=
  congrArg Prod.snd quiet

/-- The calls of a script are made one after another, up to the first one that
fails. With a fault that call is the last one made; otherwise all were answered,
and the answers are given in order. -/
inductive Recites (driver : Driver σ) :
    World σ → List Call → Except Fault (List String) → World σ → Prop where
  | done {before after : World σ} :
      before.Quiet after →
      Recites driver before [] (.ok []) after
  | answered {before start between after : World σ} {call : Call}
      {calls : List Call}
      {answer : String} {result : Except Fault (List String)} :
      before.Quiet start →
      Act.perform driver call start = (.ok answer, between) →
      Recites driver between calls result after →
      Recites driver before (call :: calls) (result.map (answer :: ·)) after
  | failed {before start between after : World σ} {call : Call}
      {unmade : List Call}
      {fault : Fault} :
      before.Quiet start →
      Act.perform driver call start = (.error fault, between) →
      between.Quiet after →
      Recites driver before (call :: unmade) (.error fault) after

theorem Act.perform_events (driver : Driver σ) (call : Call) (world : World σ) :
    (perform driver call world).2.events = world.events ++ [.called call] := by
  let noted : Frame σ := .keeping World.events
  have writing (path : Path) (data : List UInt8) :
      (writeFile path data).Within noted := by
    intro world
    unfold writeFile
    split <;> rfl
  have asked :
      (reply (.called call) (fun time state => driver.perform time call state)
        world).2.events = world.events ++ [.called call] := by
    simp only [reply]
    split <;> rfl
  rcases answer : reply (.called call)
    (fun time state => driver.perform time call state) world
    with ⟨fault | text, between⟩
  · rw [answer] at asked
    rw [perform, bind_of_error answer]
    exact asked
  · rw [answer] at asked
    rw [perform, bind_of_ok answer, ← asked]
    cases call with
    | screenshot path =>
        have written : (writeFile path (Text.encodeUtf8 text) >>= fun _ =>
            (pure text : Act σ String)).Within noted :=
          within_bind (writing _ _) fun _ => within_pure _
        exact written between
    | _ => rfl

theorem Act.events_of_perform {call : Call} {before after : World σ}
    {answer : Except Fault String}
    (asked : perform driver call before = (answer, after)) :
    after.events = before.events ++ [.called call] := by
  have noted := perform_events driver call before
  rwa [asked] at noted

namespace Recites

variable {before start after finish : World σ} {script : List Call}
  {result : Except Fault (List String)}

theorem quiet_left (quiet : before.Quiet start)
    (recital : Recites driver start script result after) :
    Recites driver before script result after := by
  cases recital with
  | done rest => exact .done (Frame.quiet.trans quiet rest)
  | answered rest answer later =>
      exact .answered (Frame.quiet.trans quiet rest) answer later
  | failed rest answer later =>
      exact .failed (Frame.quiet.trans quiet rest) answer later

theorem quiet_right (recital : Recites driver before script result after)
    (quiet : after.Quiet finish) :
    Recites driver before script result finish := by
  induction recital with
  | done rest => exact .done (Frame.quiet.trans rest quiet)
  | answered rest answer _ induction =>
      exact .answered rest answer (induction quiet)
  | failed rest answer later =>
      exact .failed rest answer (Frame.quiet.trans later quiet)

/-- The calls that were made are the only ones noted. They are the whole script
when all were answered, and otherwise its beginning up to a call that fails with
the fault. -/
theorem made (recital : Recites driver before script result after) :
    ∃ made unmade, script = made ++ unmade ∧
      after.events = before.events ++ made.map .called ∧
      (∀ answers, result = .ok answers →
        unmade = [] ∧ answers.length = script.length) ∧
      ∀ fault, result = .error fault → ∃ answered call start between,
        made = answered ++ [call] ∧
        Act.perform driver call start = (.error fault, between) := by
  induction recital with
  | done quiet => exact ⟨[], [], rfl, by simp [quiet.events], by simp, by simp⟩
  | @answered before start between after call calls answer result quiet answers
    _ induction =>
      obtain ⟨made, unmade, split, events, whole, broken⟩ := induction
      have asked := Act.events_of_perform answers
      rw [quiet.events] at asked
      refine ⟨call :: made, unmade, by simp [split],
        by simp [events, asked], ?_, ?_⟩
      · intro texts given
        cases result with
        | error fault => cases given
        | ok later =>
            cases given
            have ended := whole later rfl
            exact ⟨ended.1, by simp [ended.2]⟩
      · intro fault given
        cases result with
        | ok later => cases given
        | error _ =>
            cases given
            obtain ⟨answered, last, start, between, ending, failing⟩ :=
              broken fault rfl
            exact ⟨call :: answered, last, start, between,
              by simp [ending], failing⟩
  | @failed before start between after call unmade fault quiet answers later =>
      have asked := Act.events_of_perform answers
      rw [quiet.events] at asked
      refine ⟨[call], unmade, rfl, by simp [later.events, asked], by simp, ?_⟩
      intro raised given
      cases given
      exact ⟨[], call, start, between, rfl, answers⟩

end Recites

/-- In a world an act recites a script, and what comes of it is judged from the
answers. -/
def Act.Speaks (driver : Driver σ) (act : Act σ α) (world : World σ)
    (script : List Call) (judge : List String → Except Fault α) : Prop :=
  ∃ answers, Recites driver world script answers (act world).2 ∧
    (act world).1 = answers.bind judge

namespace Act

variable {act : Act σ α} {world between : World σ} {script : List Call}
  {judge : List String → Except Fault α}

theorem speaks_of_quiet {result : Except Fault α}
    (quiet : world.Quiet (act world).2) (ended : (act world).1 = result) :
    act.Speaks driver world [] fun _ => result :=
  ⟨.ok [], .done quiet, ended⟩

/-- Judgements need to agree only on as many answers as the script asks for. -/
theorem Speaks.judged_by {other : List String → Except Fault α}
    (speaks : act.Speaks driver world script judge)
    (same : ∀ answers, answers.length = script.length →
      judge answers = other answers) :
    act.Speaks driver world script other := by
  obtain ⟨answers, recital, ended⟩ := speaks
  obtain ⟨_, _, _, _, whole, _⟩ := recital.made
  refine ⟨answers, recital, ended.trans ?_⟩
  cases answers with
  | error fault => rfl
  | ok texts => exact same texts (whole texts rfl).2

theorem speaks_after_quiet {first : Act σ α} {next : α → Act σ β} {value : α}
    {judge : List String → Except Fault β}
    (done : first world = (.ok value, between)) (quiet : world.Quiet between)
    (later : (next value).Speaks driver between script judge) :
    (first >>= next).Speaks driver world script judge := by
  obtain ⟨answers, recital, ended⟩ := later
  refine ⟨answers, ?_, ?_⟩
  · rw [bind_of_ok done]
    exact recital.quiet_left quiet
  · rw [bind_of_ok done, ended]

theorem Speaks.before_quiet {next : α → Act σ β} {f : α → β}
    (first : act.Speaks driver world script judge)
    (later : ∀ value between, between.Quiet (next value between).2 ∧
      (next value between).1 = .ok (f value)) :
    (act >>= next).Speaks driver world script fun answers =>
      (judge answers).map f := by
  obtain ⟨answers, recital, ended⟩ := first
  have joined : (answers.bind fun texts => (judge texts).map f) =
      (act world).1.map f := by
    rw [ended]
    cases answers <;> rfl
  refine ⟨answers, ?_, ?_⟩
  · rcases result : act world with ⟨fault | value, between⟩ <;>
      rw [result] at recital
    · rw [bind_of_error result]
      exact recital
    · rw [bind_of_ok result]
      exact recital.quiet_right (later value between).1
  · rw [joined]
    rcases result : act world with ⟨fault | value, between⟩
    · rw [bind_of_error result]
      rfl
    · rw [bind_of_ok result, (later value between).2]
      rfl

/-- A call is the first of the script; the rest of it depends on the answer. -/
theorem speaks_of_perform {call : Call} {next : String → Act σ α}
    (later : ∀ answer between,
      perform driver call world = (.ok answer, between) →
      (next answer).Speaks driver between script fun answers =>
        judge (answer :: answers)) :
    (perform driver call >>= next).Speaks driver world
      (call :: script) judge := by
  rcases result : perform driver call world with ⟨fault | answer, between⟩
  · refine ⟨.error fault, ?_, ?_⟩
    · rw [bind_of_error result]
      exact .failed rfl result rfl
    · rw [bind_of_error result]
      rfl
  · obtain ⟨answers, recital, ended⟩ := later answer between result
    refine ⟨answers.map (answer :: ·), ?_, ?_⟩
    · rw [bind_of_ok result]
      exact .answered rfl result recital
    · rw [bind_of_ok result, ended]
      cases answers <;> rfl

/-- What is done quietly in the end adds nothing to the script, whatever came
before. -/
theorem Speaks.ensuring_quiet {last : Act σ Unit}
    (first : act.Speaks driver world script judge)
    (later : ∀ between,
      between.Quiet (last between).2 ∧ (last between).1 = .ok ()) :
    (ensuring act last).Speaks driver world script judge := by
  obtain ⟨answers, recital, ended⟩ := first
  rcases result : act world with ⟨outcome, between⟩
  rw [result] at recital ended
  obtain ⟨quiet, passes⟩ := later between
  rcases ending : last between with ⟨_ | _, after⟩ <;>
    rw [ending] at quiet passes
  · cases passes
  · refine ⟨answers, ?_, ?_⟩
    · simpa [ensuring, result, ending] using recital.quiet_right quiet
    · simpa [ensuring, result, ending] using ended

end Act

end PageFlow
