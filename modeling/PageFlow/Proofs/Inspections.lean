import Mathlib.Data.List.Infix
import PageFlow.Proofs.Verdicts
import PageFlow.Proofs.Visits

/-!
# Inspections

A smoke test goes to a page and asks for its title and its content, up to the
first call that fails, and judges the page by the answers. Whatever comes of the
calls, the session is released, and the command exits with zero exactly if the
page was found sound.
-/

namespace PageFlow

open Act

variable {σ : Type} {driver : Driver σ} {runner : Runner}

/-! ## Pages -/

namespace Smoke

/-- A page that shows no error of its server, and that is not empty. -/
structure Sound (title content : String) : Prop where
  served : ∀ marker ∈ errorMarkers, ¬ marker.toList <:+: content.toList
  filled : ¬ (title = "" ∧ content.length < leastContent)

theorem showsError_iff {content : String} :
    (errorMarkers.any fun marker =>
        Text.occursIn marker.toList content.toList) = true ↔
      ∃ marker ∈ errorMarkers, marker.toList <:+: content.toList := by
  simp only [List.any_eq_true, Text.occursIn_iff]

theorem complaint?_of_marker {title content : String}
    (shown : ∃ marker ∈ errorMarkers, marker.toList <:+: content.toList) :
    complaint? title content = some "Page returned an error status" := by
  rw [complaint?, if_pos (showsError_iff.mpr shown)]

theorem complaint?_of_empty {title content : String}
    (served : ∀ marker ∈ errorMarkers, ¬ marker.toList <:+: content.toList)
    (untitled : title = "") (short : content.length < leastContent) :
    complaint? title content = some "Page appears to be empty" := by
  have unmarked : ¬ ∃ marker ∈ errorMarkers,
      marker.toList <:+: content.toList := by
    simpa using served
  rw [complaint?, if_neg (showsError_iff.not.mpr unmarked),
    if_pos (by simp [untitled, short])]

theorem complaint?_of_sound {title content : String}
    (sound : Sound title content) :
    complaint? title content = none := by
  have unmarked : ¬ ∃ marker ∈ errorMarkers,
      marker.toList <:+: content.toList := by
    simpa using sound.served
  have filled :
      ¬ (title.isEmpty && decide (content.length < leastContent)) = true := by
    simpa using sound.filled
  rw [complaint?, if_neg (showsError_iff.not.mpr unmarked), if_neg filled]

theorem sound_or (title content : String) :
    Sound title content ∨
      (∃ marker ∈ errorMarkers, marker.toList <:+: content.toList) ∨
      (∀ marker ∈ errorMarkers, ¬ marker.toList <:+: content.toList) ∧
        title = "" ∧ content.length < leastContent := by
  by_cases shown : ∃ marker ∈ errorMarkers, marker.toList <:+: content.toList
  · exact .inr (.inl shown)
  have served : ∀ marker ∈ errorMarkers,
      ¬ marker.toList <:+: content.toList := by
    simpa using shown
  by_cases empty : title = "" ∧ content.length < leastContent
  · exact .inr (.inr ⟨served, empty⟩)
  · exact .inl ⟨served, empty⟩

/-- Nothing is said of sound pages, and of no others. -/
theorem complaint?_eq_none_iff {title content : String} :
    complaint? title content = none ↔ Sound title content := by
  refine ⟨fun silent => ?_, complaint?_of_sound⟩
  obtain sound | shown | ⟨served, untitled, short⟩ := sound_or title content
  · exact sound
  · cases silent.symm.trans (complaint?_of_marker shown)
  · cases silent.symm.trans (complaint?_of_empty served untitled short)

theorem complaint?_ne_empty (title content : String) :
    complaint? title content ≠ some "" := by
  obtain sound | shown | ⟨served, untitled, short⟩ := sound_or title content
  · rw [complaint?_of_sound sound]
    simp
  · rw [complaint?_of_marker shown]
    simp
  · rw [complaint?_of_empty served untitled short]
    simp

/-! ## Results -/

/-- What is found on a page, from the answers of the calls. A request to stop is
handed on. -/
def found : Except Fault (List String) → Except Fault (Option String)
  | .ok answers =>
    match answers with
    | [_, title, content] => .ok (complaint? title content)
    | _ => .ok none
  | .error fault =>
      if fault.exits then .error fault else .ok (some (faultText fault))

/-- A result says of a page what the answers of the calls show. -/
structure Judges (url : String) (answers : Except Fault (List String))
    (result : SmokeResult) : Prop where
  url : result.url = url
  success_iff : result.success = true ↔
    ∃ opened title content,
      answers = .ok [opened, title, content] ∧ Sound title content
  error_eq_none_iff : result.error = none ↔ result.success = true
  of_fault : ∀ fault, answers = .error (.session fault) →
    result.error = some (if fault.text = "" then fault.kind else fault.text)
  of_marker : ∀ opened title content, answers = .ok [opened, title, content] →
    (∃ marker ∈ errorMarkers, marker.toList <:+: content.toList) →
    result.error = some "Page returned an error status"
  of_empty : ∀ opened title content, answers = .ok [opened, title, content] →
    (∀ marker ∈ errorMarkers, ¬ marker.toList <:+: content.toList) →
    title = "" → content.length < leastContent →
    result.error = some "Page appears to be empty"
  error_ne_empty :
    (∀ fault, answers = .error (.session fault) → fault.kind ≠ "") →
    result.error ≠ some ""

theorem faultText_session (fault : SessionFault) :
    faultText (.session fault) = if fault.text = "" then fault.kind
      else fault.text := by
  simp [faultText]

theorem judges_of_answers (url opened title content : String) (duration : Int) :
    Judges url (.ok [opened, title, content])
      ⟨url, (complaint? title content).isNone, duration,
        complaint? title content⟩ where
  url := rfl
  success_iff := by
    rw [Option.isNone_iff_eq_none, complaint?_eq_none_iff]
    constructor
    · intro sound
      exact ⟨opened, title, content, rfl, sound⟩
    · rintro ⟨_, _, _, ⟨⟩, sound⟩
      exact sound
  error_eq_none_iff := Option.isNone_iff_eq_none.symm
  of_fault := nofun
  of_marker := by
    rintro _ _ _ ⟨⟩ shown
    exact complaint?_of_marker shown
  of_empty := by
    rintro _ _ _ ⟨⟩ served untitled short
    exact complaint?_of_empty served untitled short
  error_ne_empty _ := complaint?_ne_empty title content

theorem judges_of_fault (url : String) (fault : SessionFault) (duration : Int) :
    Judges url (.error (.session fault))
      ⟨url, false, duration, some (faultText (.session fault))⟩ where
  url := rfl
  success_iff := by simp
  error_eq_none_iff := by simp
  of_fault := by
    rintro _ ⟨⟩
    exact congrArg some (faultText_session fault)
  of_marker := nofun
  of_empty := nofun
  error_ne_empty named := by
    have kind : fault.kind ≠ "" := named fault rfl
    rw [faultText_session]
    split
    · simpa using kind
    · simpa using ‹fault.text ≠ ""›

end Smoke

/-! ## Calls -/

/-- A call that asks for no image fails with a fault of the session. -/
theorem Act.session_of_perform {call : Call}
    (plain : ∀ path, call ≠ .screenshot path) {world after : World σ}
    {fault : Fault}
    (failed : perform driver call world = (.error fault, after)) :
    ∃ raised, fault = .session raised := by
  have asked :=
    reply_eq (.called call)
      (fun time state => driver.perform time call state) world
  rcases answer : (driver.perform world.clock call world.session).answer
    with raised | text <;>
    rw [answer] at asked
  · rw [perform, bind_of_error asked] at failed
    cases failed
    exact ⟨raised, rfl⟩
  · rw [perform, bind_of_ok asked] at failed
    cases call with
    | screenshot path => exact (plain path rfl).elim
    | _ => cases failed

theorem Recites.session_of_error {world after : World σ} {script : List Call}
    {result : Except Fault (List String)}
    (recital : Recites driver world script result after)
    (plain : ∀ call ∈ script, ∀ path, call ≠ .screenshot path) {fault : Fault}
    (failed : result = .error fault) : ∃ raised, fault = .session raised := by
  obtain ⟨made, unmade, rfl, _, _, broken⟩ := recital.made
  obtain ⟨answered, call, start, between, rfl, failing⟩ := broken fault failed
  exact session_of_perform (plain call (by simp)) failing

namespace Runner

/-- The calls of a smoke test. -/
def pageScript (url : String) (timeout : Int) : List Call :=
  [.goto url timeout, .title, .content]

theorem speaks_inspectPage (driver : Driver σ) (url : String) (timeout : Int)
    (world : World σ) :
    (inspectPage driver url timeout).Speaks driver world
      (pageScript url timeout) fun answers =>
      match answers with
      | [_, title, content] => .ok (Smoke.complaint? title content)
      | _ => .ok none := by
  refine speaks_of_perform fun _ _ _ => speaks_of_perform fun title _ _ =>
    speaks_of_perform fun content between _ => ?_
  have quiet : World.Quiet between
      ((pure (Smoke.complaint? title content) : Act σ (Option String))
        between).2 :=
    Frame.quiet.refl between
  refine (speaks_of_quiet quiet rfl).judged_by fun answers none => ?_
  rw [List.length_nil, List.length_eq_zero_iff] at none
  rw [none]
  rfl

/-- The page is called as the script says, and its error is what the answers
show. -/
theorem pageError_recites (driver : Driver σ) (url : String) (timeout : Int)
    (world : World σ) :
    ∃ answers after,
      Recites driver world (pageScript url timeout) answers after ∧
      pageError driver url timeout world = (Smoke.found answers, after) := by
  obtain ⟨answers, recital, judged⟩ :=
    speaks_inspectPage driver url timeout world
  rcases inspected : inspectPage driver url timeout world with ⟨result, after⟩
  rw [inspected] at recital judged
  refine ⟨answers, after, recital, ?_⟩
  obtain ⟨_, _, _, _, whole, _⟩ := recital.made
  cases answers with
  | error fault =>
      cases judged
      rw [pageError, Smoke.found]
      by_cases exits : fault.exits
      · rw [bind_of_error (by rw [settle_of_error inspected, if_pos exits]),
          if_pos exits]
      · rw [bind_of_ok (by rw [settle_of_error inspected, if_neg exits]),
          if_neg exits]
        rfl
  | ok texts =>
      obtain ⟨opened, title, content, rfl⟩ : ∃ opened title content,
          texts = [opened, title, content] :=
        List.length_eq_three.mp (whole texts rfl).2
      cases judged
      rw [pageError, bind_of_ok (settle_of_ok inspected)]
      rfl

theorem smoke_of_session (polite : runner.recorder.Polite) {url : String}
    {timeout : Option Int} {headless : Option Bool} {world between : World σ}
    {error : Option String}
    (held : withSession driver (headless.getD runner.settings.headless)
      (pageError driver url (timeout.getD runner.settings.smokeTimeout)) world =
        (.ok error, between)) :
    ∃ duration after, runner.smoke driver url timeout headless world =
      (.ok ⟨url, error.isNone, duration, error⟩, after) ∧
        between.Quiet after := by
  let result : SmokeResult :=
    ⟨url, error.isNone, max 0 (between.milliseconds - world.milliseconds),
      error⟩
  obtain ⟨_, told, telling⟩ :=
    total_report .none (Report.flat_smoke result) between
  have printing : printReport (Report.smoke result) between = (.ok (), told) :=
    telling
  obtain ⟨_, after, recording⟩ :=
    total_record polite Smoke.recordName url
      (if result.success then 1 else 0) (1 - if result.success then 1 else 0) 1
      result.duration told
  have quiet : between.Quiet after :=
    Frame.quiet.trans
      ((within_printReport Frame.quiet_admitsTelling _).allows printing)
      ((quiet_record runner _ _ _ _ _ _).allows recording)
  refine ⟨result.duration, after, ?_, quiet⟩
  rw [smoke, milliseconds, ask_bind, bind_of_ok held, since, ask_bind,
    bind_of_ok printing, bind_of_ok recording]
  rfl

theorem smoke_of_fault {url : String} {timeout : Option Int}
    {headless : Option Bool} {world between : World σ} {fault : Fault}
    (held : withSession driver (headless.getD runner.settings.headless)
      (pageError driver url (timeout.getD runner.settings.smokeTimeout)) world =
        (.error fault, between)) :
    runner.smoke driver url timeout headless world =
      (.error fault, between) := by
  rw [smoke, milliseconds, ask_bind, bind_of_error held]

/-- Behind the calls of a smoke test its session is released. If that succeeds
and no call has asked to stop, there is a result that says of the page what the
answers show. -/
theorem smoke_of_recital (polite : runner.recorder.Polite) {url : String}
    {timeout : Option Int} {headless : Option Bool} {world finish : World σ}
    {answers : Except Fault (List String)}
    (opens : (driver.launch world.clock (headless.getD runner.settings.headless)
      world.session).answer = .ok ())
    (recital : Recites driver
      (world.launched driver (headless.getD runner.settings.headless))
      (pageScript url (timeout.getD runner.settings.smokeTimeout))
      answers finish)
    (inspected : pageError driver url
      (timeout.getD runner.settings.smokeTimeout)
      (world.launched driver (headless.getD runner.settings.headless)) =
      (Smoke.found answers, finish)) :
    ∃ ended after,
      runner.smoke driver url timeout headless world = (ended, after) ∧
      (finish.released driver).Quiet after ∧
      match (driver.release finish.clock finish.session).answer with
      | .error fault => ended = .error (.session fault)
      | .ok () =>
        (∃ fault,
          answers = .error fault ∧ fault.exits = true ∧ ended = .error fault) ∨
          ∃ result, ended = .ok result ∧ Smoke.Judges url answers result := by
  have held := withSession_of_launch opens inspected
  cases closes : (driver.release finish.clock finish.session).answer with
  | error fault =>
      rw [closes] at held
      exact ⟨_, _, smoke_of_fault held, Frame.quiet.refl _, rfl⟩
  | ok _ =>
      rw [closes] at held
      cases answers with
      | error fault =>
          obtain ⟨raised, rfl⟩ :=
            recital.session_of_error (by simp [pageScript]) rfl
          by_cases exits : (Fault.session raised).exits
          · rw [Smoke.found, if_pos exits] at held
            exact ⟨_, _, smoke_of_fault held, Frame.quiet.refl _,
              .inl ⟨_, rfl, exits, rfl⟩⟩
          · rw [Smoke.found, if_neg exits] at held
            obtain ⟨duration, after, smoked, quiet⟩ :=
              smoke_of_session polite held
            exact ⟨_, after, smoked, quiet,
              .inr ⟨_, rfl, Smoke.judges_of_fault url raised duration⟩⟩
      | ok texts =>
          obtain ⟨_, _, _, _, whole, _⟩ := recital.made
          obtain ⟨opened, title, content, rfl⟩ :=
            List.length_eq_three.mp (whole texts rfl).2
          obtain ⟨duration, after, smoked, quiet⟩ :=
            smoke_of_session polite held
          exact ⟨_, after, smoked, quiet,
            .inr ⟨_, rfl,
              Smoke.judges_of_answers url opened title content duration⟩⟩

end Runner

/-! ## Verdicts -/

namespace CommandLine

theorem perform_smoke_of_ok {url : String} {timeout : Option Int}
    {headless : Option Bool} {world ready after : World σ}
    {result : SmokeResult} (made : standardRunner world = (.ok runner, ready))
    (tested : runner.smoke driver url timeout headless ready =
      (.ok result, after)) :
    perform driver (.smoke url timeout headless) world =
      (.ok (.code (codeOf result.success)), after) := by
  have whole : (do
      let runner ← standardRunner
      runner.smoke driver url timeout headless :
        Act σ SmokeResult) world = (.ok result, after) := by
    rw [bind_of_ok made, tested]
  have code : smokeTest driver url timeout headless world =
      (.ok (codeOf result.success), after) := by
    rw [smokeTest, bind_of_ok (settle_of_ok whole)]
    rfl
  rw [perform, map_eq_pure_bind, bind_of_ok code]
  rfl

/-- Without a result the command of a smoke test does not end with zero. -/
theorem exists_of_perform_smoke {url : String} {timeout : Option Int}
    {headless : Option Bool} {world : World σ}
    (zero : (perform driver (.smoke url timeout headless) world).1 =
      .ok (.code 0)) :
    ∃ runner ready result after, standardRunner world = (.ok runner, ready) ∧
      Runner.smoke runner driver url timeout headless ready =
        (.ok result, after) ∧
      result.success = true := by
  rcases ended : perform driver (.smoke url timeout headless) world
    with ⟨ending, after⟩
  rw [ended] at zero
  cases zero
  rw [perform, map_eq_pure_bind] at ended
  obtain ⟨code, _, tested, given⟩ := bind_eq_ok.mp ended
  cases given
  obtain ⟨settled, between, settling, rest⟩ := bind_eq_ok.mp tested
  cases settled with
  | error fault =>
      obtain ⟨_, _, _, coded⟩ := bind_eq_ok.mp rest
      cases coded
  | ok result =>
      have coded : codeOf result.success = 0 :=
        Except.ok.inj (congrArg Prod.fst rest)
      obtain ⟨runner, ready, made, smoked⟩ :=
        bind_eq_ok.mp (settle_eq_ok_ok settling)
      refine ⟨runner, ready, result, between, made, smoked, ?_⟩
      cases success : result.success with
      | true => rfl
      | false => simp [codeOf, success] at coded

theorem closing_of_ok {act : Act σ Ending} {world after : World σ}
    {ending : Ending} (ended : act world = (.ok ending, after)) :
    closing act world = (.ok ending, after) := by
  rw [closing, ended]

end CommandLine

namespace Runner

/-- If its session is launched, a smoke test calls the page for its script up to
the first call that fails, and releases the session whatever has come of the
calls. If that succeeds and no call has asked to stop, its result says of the
page what the answers show. A command of a smoke test that has a result ends
with its verdict, and no other one ends with zero. -/
theorem smoke_verdict (driver : Driver σ) (url : String) (timeout : Option Int)
    (headless : Option Bool) :
    (∀ (runner : Runner) (world : World σ), runner.recorder.Polite →
      let shown := headless.getD runner.settings.headless
      let script : List Call :=
        [.goto url (timeout.getD runner.settings.smokeTimeout),
          .title, .content]
      (driver.launch world.clock shown world.session).answer = .ok () →
      ∃ answers finish made unmade ended after,
        runner.smoke driver url timeout headless world = (ended, after) ∧
        Recites driver (world.launched driver shown) script answers finish ∧
        script = made ++ unmade ∧
        after.events = world.events ++
          .opened shown :: made.map .called ++ [.closed] ∧
        (∀ texts, answers = .ok texts → unmade = []) ∧
        (∀ fault, answers = .error fault → ∃ answered call start between,
          made = answered ++ [call] ∧
            Act.perform driver call start = (.error fault, between)) ∧
        match (driver.release finish.clock finish.session).answer with
        | .error fault => ended = .error (.session fault)
        | .ok () =>
          (∃ fault, answers = .error fault ∧ fault.exits = true ∧
            ended = .error fault) ∨
            ∃ result, ended = .ok result ∧ Smoke.Judges url answers result) ∧
      ∀ world : World σ,
        let ending :=
          (CommandLine.closing
            (CommandLine.perform driver (.smoke url timeout headless)) world).1
        (∀ runner ready result after,
          CommandLine.standardRunner world = (.ok runner, ready) →
          runner.smoke driver url timeout headless ready = (.ok result, after) →
          ending = .ok (.code (if result.success then 0 else 1))) ∧
        (ending = .ok (.code 0) →
          ∃ runner ready result after,
            CommandLine.standardRunner world = (.ok runner, ready) ∧
            runner.smoke driver url timeout headless ready =
              (.ok result, after) ∧
            result.success = true) := by
  constructor
  · intro runner world polite shown script opens
    obtain ⟨answers, finish, recital, inspected⟩ := pageError_recites driver url
      (timeout.getD runner.settings.smokeTimeout) (world.launched driver shown)
    obtain ⟨ended, after, smoked, quiet, judged⟩ :=
      smoke_of_recital polite opens recital inspected
    obtain ⟨made, unmade, split, events, whole, broken⟩ := recital.made
    have released : (finish.released driver).events =
        world.events ++ .opened shown :: made.map .called ++ [.closed] := by
      change finish.events ++ [.closed] = _
      rw [events, World.launched, World.noting]
      simp
    exact ⟨answers, finish, made, unmade, ended, after, smoked, recital, split,
      quiet.events.trans released, fun texts given => (whole texts given).1,
      broken, judged⟩
  · intro world ending
    constructor
    · intro runner ready result after made tested
      have performed := CommandLine.perform_smoke_of_ok made tested
      exact congrArg Prod.fst (CommandLine.closing_of_ok performed)
    · intro zero
      exact CommandLine.exists_of_perform_smoke
        (CommandLine.closing_eq_zero.mp zero)

/-- A page that cannot tell its title, for a reason without words. -/
private def untold : Driver Unit where
  launch _ _ _ := ⟨.ok (), 0, ()⟩
  perform _ call _ :=
    ⟨if call = .title then .error ⟨"TimeoutError", "", none⟩ else .ok "", 0, ()⟩
  release _ _ := ⟨.ok (), 0, ()⟩

private def served (title content : String) : Driver Unit where
  launch _ _ _ := ⟨.ok (), 0, ()⟩
  perform _ call _ :=
    ⟨.ok (match call with
      | .title => title
      | .content => content
      | _ => ""), 0, ()⟩
  release _ _ := ⟨.ok (), 0, ()⟩

private theorem answers_of_served {title content url : String} {timeout : Int}
    {world finish : World Unit} {answers : Except Fault (List String)}
    (recital : Recites (served title content) world
      [.goto url timeout, .title, .content] answers finish) :
    answers = .ok ["", title, content] := by
  cases recital with
  | failed _ asked _ => cases asked
  | answered _ asked later =>
      cases asked
      cases later with
      | failed _ asked _ => cases asked
      | answered _ asked later =>
          cases asked
          cases later with
          | failed _ asked _ => cases asked
          | answered _ asked later =>
              cases asked
              cases later
              rfl

/-- A content of so many characters. -/
private def filled (length : Nat) : String :=
  String.ofList (List.replicate length 'x')

/-- A page fails that shows the error of a server, or that has no title and 99
characters; with 100 of them it is sound. Nothing is asked behind a title that a
page cannot tell, and the error is the word for the kind of the fault. -/
theorem smoke_verdict_pages :
    let runner : Runner := ⟨.rehearsal, .absent, .off⟩
    let world : World Unit := .before () ⟨[], []⟩
    let tells (driver : Driver Unit) (error : Option String) : Prop :=
      ∃ result after,
        runner.smoke driver "http://localhost" (some 0) none world =
          (.ok result, after) ∧ result.error = error
    tells (served "Bank" "<h1>404 Not Found</h1>")
        (some "Page returned an error status") ∧
      tells (served "" (filled 99)) (some "Page appears to be empty") ∧
      tells (served "" (filled 100)) none ∧
      ∃ result after,
        runner.smoke untold "http://localhost" (some 0) none world =
          (.ok result, after) ∧
        result.success = false ∧ result.error = some "TimeoutError" ∧
        after.events = [.opened true, .called (.goto "http://localhost" 0),
          .called .title, .closed] := by
  intro runner world tells
  have polite : runner.recorder.Polite := trivial
  have page (title content : String) : ∃ result after,
      runner.smoke (served title content) "http://localhost" (some 0) none
          world = (.ok result, after) ∧
        Smoke.Judges "http://localhost" (.ok ["", title, content]) result := by
    obtain ⟨verdict, -⟩ :=
      smoke_verdict (served title content) "http://localhost" (some 0) none
    obtain ⟨answers, _, _, _, _, after, tested, recital, -, -, -, -, judged⟩ :=
      verdict runner world polite rfl
    obtain rfl := answers_of_served recital
    obtain ⟨_, ⟨⟩, _⟩ | ⟨result, rfl, judges⟩ := judged
    exact ⟨result, after, tested, judges⟩
  refine ⟨?_, ?_, ?_, ?_⟩
  · obtain ⟨result, after, tested, judges⟩ :=
      page "Bank" "<h1>404 Not Found</h1>"
    exact ⟨result, after, tested,
      judges.of_marker _ _ _ rfl ⟨"404 Not Found", by decide, by decide⟩⟩
  · obtain ⟨result, after, tested, judges⟩ := page "" (filled 99)
    exact ⟨result, after, tested, judges.of_empty _ _ _ rfl
      (by decide +kernel) rfl (by decide +kernel)⟩
  · obtain ⟨result, after, tested, judges⟩ := page "" (filled 100)
    refine ⟨result, after, tested, judges.error_eq_none_iff.mpr
      (judges.success_iff.mpr ⟨_, _, _, rfl, ?_⟩)⟩
    exact ⟨by decide +kernel, by decide +kernel⟩
  · obtain ⟨verdict, -⟩ := smoke_verdict untold "http://localhost" (some 0) none
    obtain ⟨answers, finish, made, unmade, ended, after, tested, recital, split,
        events, whole, broken, judged⟩ := verdict runner world polite rfl
    -- The calls are gone through: the first one is answered, and the second one
    -- fails.
    cases recital with
    | failed _ asked _ => cases asked
    | answered _ _ later =>
        cases later with
        | answered _ asked _ => cases asked
        | failed _ asked _ =>
            cases asked
            obtain ⟨answered, call, start, between, rfl, failing⟩ :=
              broken _ rfl
            have calls :
                answered ++ [call] = [.goto "http://localhost" 0, .title] := by
              match answered, split with
              | [], split =>
                  cases split
                  cases failing
              | [_], split =>
                  cases split
                  rfl
              | [_, _], split =>
                  cases split
                  cases failing
              | _ :: _ :: _ :: rest, split => cases rest <;> cases split
            obtain ⟨_, ⟨⟩, exits, _⟩ | ⟨result, rfl, judges⟩ := judged
            · cases exits
            · refine ⟨result, after, tested, ?_, judges.of_fault _ rfl, ?_⟩
              · cases success : result.success with
                | false => rfl
                | true =>
                    obtain ⟨_, _, _, answers, _⟩ :=
                      judges.success_iff.mp success
                    cases answers
              · rw [events, calls]
                rfl

end Runner

end PageFlow
