import PageFlow.Proofs.Frame
import PageFlow.Proofs.Rehearsal
import PageFlow.Proofs.RoundTrip

/-!
# Printed documents

Where a document is asked for, a run prints nothing but the report of its
result, and the console leaves the text of a document as it is. Hence what was
printed is read as that report.
-/

namespace PageFlow

open PageFlow.Decimal PageFlow.Text

/-! ## The console and documents -/

namespace Json

variable {charset : Charset} {limit : Nat}

/-- A character that the console writes as it is: a line feed, or no control
character. -/
def Shown (c : Char) : Prop :=
  c = '\n' ∨ 0x20 ≤ c.toNat

instance (c : Char) : Decidable (Shown c) :=
  inferInstanceAs (Decidable (c = '\n' ∨ 0x20 ≤ c.toNat))

theorem shown_of_all {s : List Char} (all : s.all fun c => decide (Shown c)) :
    ∀ c ∈ s, Shown c :=
  fun c member => of_decide_eq_true (List.all_eq_true.mp all c member)

theorem shown_unitEscape (unit : Nat) : ∀ c ∈ unitEscape unit, Shown c := by
  have digit (n : Nat) : Shown (hexDigit (n % 16)) := by
    have each : ∀ d < 16, Shown (hexDigit d) := by decide
    exact each _ (Nat.mod_lt n (by decide))
  rw [unitEscape_eq]
  simp only [List.forall_mem_cons, digit, List.not_mem_nil, false_implies,
    implies_true, and_true]
  decide

theorem shown_of_shortEscape {letter c : Char}
    (short : shortEscape? letter = some c) : Shown letter := by
  unfold shortEscape? at short
  split at short
  case h_9 => cases short
  all_goals decide

theorem Writes.shown {c : Char} {written : List Char}
    (writes : Writes c written) : ∀ d ∈ written, Shown d := by
  cases writes with
  | short escape =>
      simp only [List.forall_mem_cons]
      exact ⟨by decide, shown_of_shortEscape escape, List.forall_mem_nil _⟩
  | code _ => exact shown_unitEscape _
  | pair _ =>
      exact List.forall_mem_append.mpr ⟨shown_unitEscape _, shown_unitEscape _⟩
  | plain _ _ least =>
      exact List.forall_mem_singleton.mpr (.inr (Nat.not_lt.mp least))

theorem shown_textChars (charset : Charset) (s : String) :
    ∀ c ∈ textChars charset s, Shown c := by
  rw [textChars, List.cons_append, List.forall_mem_cons, List.forall_mem_append]
  refine ⟨by decide, fun c member => ?_, shown_of_all (by decide)⟩
  obtain ⟨own, _, written⟩ := List.mem_flatMap.mp member
  exact (writes_escapeChar charset own).shown c written

theorem shown_newline (level : Nat) : ∀ c ∈ newline level, Shown c := by
  intro c member
  rcases List.mem_cons.mp member with rfl | blank
  · exact .inl rfl
  · rw [List.eq_of_mem_replicate blank]
    decide

theorem shown_intText (n : Int) : ∀ c ∈ (intText n).toList, Shown c := by
  have digits (m : Nat) : ∀ c ∈ natDigits m, Shown c := by
    intro c member
    have decimal := isDigit_natDigits c member
    simp only [Char.isDigit, Bool.and_eq_true, decide_eq_true_eq,
      UInt32.le_iff_toNat_le] at decimal
    have least : 48 ≤ c.toNat := decimal.1
    exact .inr (by omega)
  rw [intText]
  split
  · have text : ("-" ++ String.ofList (natDigits n.natAbs)).toList =
        '-' :: natDigits n.natAbs := by
      simp
    rw [text, List.forall_mem_cons]
    exact ⟨by decide, digits _⟩
  · rw [String.toList_ofList]
    exact digits _

theorem shown_blockItems {items : List Json} {level : Nat}
    (each : ∀ item ∈ items, ∀ c ∈ blockChars charset level item, Shown c) :
    ∀ c ∈ blockItems charset level items, Shown c := by
  induction items with
  | nil => exact List.forall_mem_nil _
  | cons item items induction =>
      obtain ⟨first, others⟩ := List.forall_mem_cons.mp each
      by_cases last : items = []
      · subst last
        exact first
      · rw [blockItems_cons last, List.forall_mem_append, List.forall_mem_cons,
          List.forall_mem_append]
        exact ⟨first, by decide, shown_newline level, induction others⟩

theorem shown_blockMembers {members : List (String × Json)} {level : Nat}
    (each : ∀ member ∈ members, ∀ c ∈ blockChars charset level member.2,
      Shown c) :
    ∀ c ∈ blockMembers charset level members, Shown c := by
  induction members with
  | nil => exact List.forall_mem_nil _
  | cons member members induction =>
      obtain ⟨name, value⟩ := member
      obtain ⟨first, others⟩ := List.forall_mem_cons.mp each
      have colon : Shown ':' ∧ Shown ' ' := by decide
      by_cases last : members = []
      · subst last
        rw [blockMembers, List.forall_mem_append, List.forall_mem_cons,
          List.forall_mem_cons]
        exact ⟨shown_textChars charset name, colon.1, colon.2, first⟩
      · rw [blockMembers_cons last, List.forall_mem_append,
          List.forall_mem_cons, List.forall_mem_cons, List.forall_mem_append,
          List.forall_mem_cons, List.forall_mem_append]
        exact ⟨shown_textChars charset name, colon.1, colon.2, first, by decide,
          shown_newline level, induction others⟩

theorem Plain.shown {document : Json} (plain : Plain limit document) :
    ∀ level, ∀ c ∈ blockChars charset level document, Shown c := by
  induction plain with intro level
  | null =>
      rw [blockChars]
      exact shown_of_all (by decide)
  | bool b =>
      cases b <;> rw [blockChars] <;> exact shown_of_all (by decide)
  | @int n _ => exact shown_intText n
  | text s => exact shown_textChars charset s
  | @array items _ each =>
      by_cases none : items = []
      · rw [none, blockChars]
        exact shown_of_all (by decide)
      · simp only [blockChars_array none, List.forall_mem_cons,
          List.forall_mem_append]
        exact ⟨by decide, shown_newline _, shown_blockItems fun item member =>
          each item member _, shown_newline _, by decide, List.forall_mem_nil _⟩
  | @object members _ _ each =>
      by_cases none : members = []
      · rw [none, blockChars]
        exact shown_of_all (by decide)
      · simp only [blockChars_object none, List.forall_mem_cons,
          List.forall_mem_append]
        exact ⟨by decide, shown_newline _,
          shown_blockMembers fun member among => each member among _,
          shown_newline _, by decide, List.forall_mem_nil _⟩

/-- The console writes the text of a document as it is and ends it with a line
feed. -/
theorem Plain.rawConsoleText_block {document : Json}
    (plain : Plain limit document) :
    Markup.rawConsoleText (block charset document) =
      block charset document ++ "\n" := by
  have shown : ∀ c ∈ blockChars charset 0 document, Shown c := plain.shown 0
  have kept : (blockChars charset 0 document).filter (!Markup.isDropped ·) =
      blockChars charset 0 document := by
    refine List.filter_eq_self.mpr fun c member => ?_
    rcases shown c member with rfl | least
    · rfl
    · simp only [Markup.isDropped, Bool.not_eq_true', Bool.or_eq_false_iff,
        beq_eq_false_iff_ne]
      omega
  have untabbed : '\t' ∉ blockChars charset 0 document := fun member =>
    absurd (shown '\t' member) (by decide)
  rw [Markup.rawConsoleText, Markup.consoleText, block, String.toList_ofList,
    String.toList_ofList, kept, expandTabs_of_notMem untabbed,
    String.ofList_append]

end Json

/-! ## Reports of results -/

/-- No number of a result has more digits than a limit allows. -/
structure RunResult.Moderate (limit : Nat) (result : RunResult) : Prop where
  passed : Json.HasFewDigits limit result.passed
  failed : Json.HasFewDigits limit result.failed
  total : Json.HasFewDigits limit result.total
  duration : Json.HasFewDigits limit result.duration
  attempts : Json.HasFewDigits limit result.steps.length
  durations : ∀ outcome ∈ result.steps, Json.HasFewDigits limit outcome.duration

theorem RunResult.moderate_zero (result : RunResult) : result.Moderate 0 :=
  ⟨rfl, rfl, rfl, rfl, rfl, fun _ _ => rfl⟩

namespace Report

open Json

variable {limit : Nat}

theorem hasFewDigits_of_le {least most : Nat} (few : HasFewDigits limit most)
    (bound : least ≤ most) : HasFewDigits limit least := by
  -- Of natural numbers, those below a power of ten have at most so many digits.
  have spelled {n : Nat} (some : 0 < limit) : HasFewDigits limit n ↔
      n < 10 ^ limit := by
    rw [HasFewDigits, allows_iff, or_iff_right (Nat.ne_of_gt some)]
    exact Nat.length_toDigits_le_iff (by decide) some
  rcases Nat.eq_zero_or_pos limit with rfl | some
  · rfl
  · exact (spelled some).mpr (Nat.lt_of_le_of_lt bound ((spelled some).mp few))

theorem plain_stepEntry {index : Nat} {outcome : Outcome}
    (place : HasFewDigits limit index)
    (duration : HasFewDigits limit outcome.duration) :
    (stepEntry index outcome).Plain limit := by
  refine .object ?_ ?_
  · cases outcome.error <;> cases outcome.screenshot <;> simp
  · simp only [List.forall_mem_append, List.forall_mem_cons]
    refine ⟨⟨⟨.int place, .text _, .bool _, .int duration,
      List.forall_mem_nil _⟩, ?_⟩, ?_⟩
    · cases outcome.error with
      | none => exact List.forall_mem_nil _
      | some error => exact List.forall_mem_singleton.mpr (.text error)
    · cases outcome.screenshot with
      | none => exact List.forall_mem_nil _
      | some path => exact List.forall_mem_singleton.mpr (.text path)

theorem plain_stepEntries {next most : Nat} {outcomes : List Outcome}
    (bound : next + outcomes.length ≤ most + 1)
    (places : HasFewDigits limit most)
    (durations : ∀ outcome ∈ outcomes, HasFewDigits limit outcome.duration) :
    ∀ entry ∈ stepEntries next outcomes, entry.Plain limit := by
  induction outcomes generalizing next with
  | nil => exact List.forall_mem_nil _
  | cons outcome outcomes induction =>
      obtain ⟨first, others⟩ := List.forall_mem_cons.mp durations
      rw [List.length_cons] at bound
      have place : HasFewDigits limit next :=
        hasFewDigits_of_le places (by omega)
      exact List.forall_mem_cons.mpr ⟨plain_stepEntry place first,
        induction (by omega) others⟩

theorem plain_document (timestamp : String) {result : RunResult}
    (moderate : result.Moderate limit) :
    (document timestamp result).Plain limit := by
  have entries : ∀ entry ∈ stepEntries 1 result.steps, entry.Plain limit :=
    plain_stepEntries (Nat.le_of_eq (Nat.add_comm _ _)) moderate.attempts
      moderate.durations
  refine .object (by simp) ?_
  simp only [List.forall_mem_cons]
  refine ⟨.text _, .text _, .text _, ?_, .array entries, List.forall_mem_nil _⟩
  refine .object (by simp) ?_
  simp only [List.forall_mem_cons]
  exact ⟨.int moderate.passed, .int moderate.failed, .int moderate.total,
    .int moderate.duration, .bool _, List.forall_mem_nil _⟩

theorem plain_documents (timestamp : String) {results : List RunResult}
    (moderate : ∀ result ∈ results, result.Moderate limit) :
    (documents timestamp results).Plain limit :=
  .array (List.forall_mem_map.mpr fun result among =>
    plain_document timestamp (moderate result among))

end Report

/-! ## Silent runs -/

section Silence

open Act

variable {σ α : Type} {driver : Driver σ} {options : RunOptions}
  {runner : Runner}

/-- Nothing is printed. -/
def Frame.silent : Frame σ :=
  .keeping World.output

theorem Frame.silent_admitsLogging : (Frame.silent : Frame σ).AdmitsLogging :=
  keeping_admitsLogging fun _ _ _ _ => rfl

theorem Frame.silent_admitsSessions (driver : Driver σ) (recorder : Recorder)
    (directory : Path) :
    (Frame.silent : Frame σ).AdmitsSessions driver recorder directory :=
  Runner.keeping_admitsSessions (fun _ _ _ _ _ _ _ _ _ _ => rfl)
    recorder directory

namespace Runner

theorem silent_runSource (json : options.json) (source : FlowSource) :
    (runner.runSource driver options source).Within .silent :=
  within_runSource_of_report source (Frame.silent_admitsSessions driver _ _)
    (within_report_of_json json)

theorem silent_runEach (json : options.json) (sources : List FlowSource)
    (batch : BatchResult) :
    (runner.runEach driver options sources batch).Within .silent :=
  within_runEach Frame.silent_admitsLogging (silent_runSource json)
    sources batch

/-- An act whose result is printed at the end, as a document with the time. -/
def printing (report : String → α → Json) (act : Act σ α) : Act σ α := do
  let value ← act
  let time ← now
  printDocument (report (Calendar.stampText time) value)
  return value

theorem run_eq_printing (json : options.json) (source : FlowSource) :
    runner.run driver options source =
      printing Report.document (runner.runSource driver options source) := by
  simp only [run, printing, json, if_true]

theorem runAll_eq_printing (json : options.json) (sources : List FlowSource) :
    runner.runAll driver options sources = printing
      (fun timestamp batch => Report.documents timestamp batch.results)
      (runner.runEach driver options sources .empty) := by
  simp only [runAll, printing, json, if_true]

theorem printing_silent {report : String → α → Json}
    (plain : ∀ timestamp value, (report timestamp value).Plain 0)
    {act : Act σ α} (silent : act.Within .silent) {world after : World σ}
    {result : Except Fault α}
    (ended : printing report act world = (result, after)) :
    match result with
    | .ok value => after.output = world.output ++ (Json.block .unicode
        (report (Calendar.stampText (Calendar.ofMoment after.moment)) value) ++
          "\n")
    | .error _ => after.output = world.output := by
  rcases acted : act world with ⟨fault | value, between⟩
  · have quiet : between.output = world.output := silent.allows acted
    rw [printing, bind_of_error acted] at ended
    cases ended
    exact quiet
  · have quiet : between.output = world.output := silent.allows acted
    rw [printing, bind_of_ok acted, now, ask_bind, printDocument,
      (plain _ _).rawConsoleText_block] at ended
    cases ended
    rw [← quiet]
    rfl

/-- Where a document is asked for, what a run prints is read as the report of
its result, and what a batch prints as the list of the reports of its results,
in order; an empty list is printed as such. A run or a batch that raises a fault
prints nothing. This holds of all results where the digits of integers are not
limited, and under the usual limit of those whose numbers keep to it. -/
theorem prints_document (runner : Runner) (driver : Driver σ)
    (json : options.json) (world : World σ) :
    (∀ source result after,
      runner.run driver options source world = (.ok result, after) →
      ∃ text, after.output = world.output ++ text ∧
        let report :=
          Report.document (Calendar.stampText (Calendar.ofMoment after.moment))
            result
        Json.readAll 0 text.toList = .ok report ∧
          (result.Moderate Json.digitLimit → Json.read text = .ok report)) ∧
    (∀ source fault after,
      runner.run driver options source world = (.error fault, after) →
      after.output = world.output) ∧
    (∀ sources batch after,
      runner.runAll driver options sources world = (.ok batch, after) →
      ∃ text, after.output = world.output ++ text ∧
        (batch.results = [] → text = "[]\n") ∧
        let report :=
          Report.document (Calendar.stampText (Calendar.ofMoment after.moment))
        let reports := Json.array (batch.results.map report)
        Json.readAll 0 text.toList = .ok reports ∧
          ((∀ result ∈ batch.results, result.Moderate Json.digitLimit) →
            Json.read text = .ok reports)) ∧
    ∀ sources fault after,
      runner.runAll driver options sources world = (.error fault, after) →
      after.output = world.output := by
  have single (timestamp : String) (result : RunResult) :
      (Report.document timestamp result).Plain 0 :=
    Report.plain_document timestamp result.moderate_zero
  have several (timestamp : String) (batch : BatchResult) :
      (Report.documents timestamp batch.results).Plain 0 :=
    Report.plain_documents timestamp fun result _ => result.moderate_zero
  refine ⟨?_, ?_, ?_, ?_⟩
  · intro source result after ended
    rw [run_eq_printing json] at ended
    exact ⟨_, printing_silent single (silent_runSource json source) ended,
      (single _ _).readAll_block,
      fun moderate => Json.read_of_readAll
        (Report.plain_document _ moderate).readAll_block⟩
  · intro source fault after ended
    rw [run_eq_printing json] at ended
    exact printing_silent single (silent_runSource json source) ended
  · intro sources batch after ended
    rw [runAll_eq_printing json] at ended
    refine ⟨_, printing_silent several (silent_runEach json sources _) ended,
      fun none => ?_, (several _ _).readAll_block,
      fun moderate => Json.read_of_readAll
        (Report.plain_documents _ moderate).readAll_block⟩
    rw [none]
    rfl
  · intro sources fault after ended
    rw [runAll_eq_printing json] at ended
    exact printing_silent several (silent_runEach json sources _) ended

/-- A flow whose name is full of what a text has to escape, with one key to
press. -/
private def odd : Flow :=
  ⟨"Say \"hi\"\t[b]\\\n", none, none, [⟨.press "Enter", none, []⟩]⟩

/-- Quotes, tabs, brackets, backslashes and line feeds come back from the
console. -/
theorem prints_document_odd :
    let runner : Runner := ⟨.rehearsal, .absent, .off⟩
    let ran :=
      runner.run Script.plain.driver { RunOptions.none with json := true }
        (.flow odd)
        (World.rehearsal .plain ⟨[], []⟩)
    ∃ result, ran.1 = .ok result ∧ result.name = odd.name ∧ result.passed = 1 ∧
      Json.read ran.2.output =
        .ok (Report.document
          (Calendar.stampText (Calendar.ofMoment ran.2.moment)) result) := by
  intro runner ran
  have numbers :
      ran.1.toOption.map
          (fun result => (result.name, [result.passed, result.failed,
            result.total, result.duration], result.steps.map (·.duration))) =
        some (odd.name, [1, 0, 1, 0], [0]) := by
    decide +kernel
  rcases ended : ran with ⟨fault | result, after⟩
  · rw [ended] at numbers
    cases numbers
  · rw [ended] at numbers
    simp only [Except.toOption, Option.map_some, Option.some.injEq,
      Prod.mk.injEq, List.cons.injEq] at numbers
    obtain ⟨name, ⟨passed, failed, total, duration, _⟩, durations⟩ := numbers
    have moderate : result.Moderate Json.digitLimit := by
      refine ⟨by rw [passed]; decide, by rw [failed]; decide,
        by rw [total]; decide, by rw [duration]; decide, ?_, ?_⟩
      · rw [← List.length_map (f := fun outcome : Outcome => outcome.duration),
          durations]
        decide
      · intro outcome member
        have among :=
          List.mem_map_of_mem (f := fun outcome : Outcome => outcome.duration)
            member
        rw [durations, List.mem_singleton] at among
        rw [among]
        decide
    obtain ⟨text, output, _, reads⟩ :=
      (prints_document runner Script.plain.driver rfl
        (World.rehearsal .plain ⟨[], []⟩)).1 _ _ _ ended
    have whole : after.output = text := by
      rw [output]
      simp [World.rehearsal, World.before]
    exact ⟨result, rfl, name, passed, whole ▸ reads moderate⟩

end Runner

end Silence

end PageFlow
