import PageFlow.Browser.Scripted
import PageFlow.Proofs.Rehearsal
import PageFlow.Proofs.Transcripts

/-!
# Releases of browsers

A page is opened in four steps, it is used, and then its browser is closed and
stopped. Whatever the browser answers on the way and however the page is used, a
browser that was launched is closed once, behind everything that is done on its
page, and one that was started is stopped, at the very end.
-/

namespace PageFlow

variable {τ α : Type}

/-! ## The order of a visit -/

namespace BrowserOperation

def isOpening : BrowserOperation → Bool
  | .start | .launch .. | .newContext .. | .newPage => true
  | .page _ | .close | .stop => false

def opening (settings : Settings) (headless : Option Bool) :
    List BrowserOperation :=
  [.start, .forLaunch settings headless, .forContext settings, .newPage]

theorem not_isOpening_of_isPage {operation : BrowserOperation}
    (page : operation.isPage) : ¬ operation.isOpening := by
  cases operation with
  | page => nofun
  | _ => nomatch page

end BrowserOperation

/-- A visit behind the operations that open a page. -/
def Browser.opened (browser : Browser τ) (settings : Settings)
    (headless : Option Bool) (before : Visited τ) : Visited τ :=
  (BrowserOperation.opening settings headless).foldl browser.ask before

/-- The order that visits to a page keep. -/
structure Transcript.Orderly (settings : Settings) (headless : Option Bool)
    (transcript : Transcript) : Prop where
  /-- The browser is started before anything else. -/
  starts : transcript.operations.head? = some .start
  /-- The page is opened in four steps, each of them taken once at most. -/
  opens :
    transcript.operations.filter (·.isOpening) <+: BrowserOperation.opening
      settings headless
  /-- A step is taken if the one before it was granted, and only then. -/
  proceeds : ∀ step ∈ (BrowserOperation.opening settings headless).zip
      (BrowserOperation.opening settings headless).tail,
    step.2 ∈ transcript.operations ↔ transcript.grants step.1
  /-- Nothing is done on a page that is not open. -/
  waits : ∀ operation ∈ transcript.operations,
    operation.isPage → transcript.grants .newPage
  /-- A browser that was launched is closed once; one that was not is never
  closed. -/
  closes : transcript.operations.count .close =
    if transcript.grants (.forLaunch settings headless) then 1 else 0
  /-- Nothing is done on the page of a browser that was closed. -/
  rests : transcript.operations.Pairwise fun earlier later =>
    later.isPage → earlier ≠ .close
  /-- A browser that was started is stopped once; one that was not is never
  stopped. -/
  stops : transcript.operations.count .stop = if transcript.grants .start then 1
    else 0
  /-- Nothing comes behind the stop. -/
  ends : transcript.grants .start → transcript.operations.getLast? = some .stop

/-- The transcripts of visits: each of the four steps may be the one that fails,
or else the page is used. -/
inductive Passage (settings : Settings) (headless : Option Bool) :
    Transcript → Prop where
  | unstarted (fault : SessionFault) :
    Passage settings headless [⟨.start, .error fault⟩]
  | unlaunched (started : Json) (fault : SessionFault)
      (stopped : Except SessionFault Json) :
      Passage settings headless
        [⟨.start, .ok started⟩, ⟨.forLaunch settings headless, .error fault⟩,
          ⟨.stop, stopped⟩]
  | unprovided (started launched : Json) (fault : SessionFault)
      (closed stopped : Except SessionFault Json) :
      Passage settings headless
        [⟨.start, .ok started⟩, ⟨.forLaunch settings headless, .ok launched⟩,
          ⟨.forContext settings, .error fault⟩, ⟨.close, closed⟩,
          ⟨.stop, stopped⟩]
  | unopened (started launched provided : Json) (fault : SessionFault)
      (closed stopped : Except SessionFault Json) :
      Passage settings headless
        [⟨.start, .ok started⟩, ⟨.forLaunch settings headless, .ok launched⟩,
          ⟨.forContext settings, .ok provided⟩, ⟨.newPage, .error fault⟩,
          ⟨.close, closed⟩, ⟨.stop, stopped⟩]
  | used (started launched provided opened : Json) (calls : Transcript)
      (pages : ∀ operation ∈ calls.operations, operation.isPage)
      (closed stopped : Except SessionFault Json) :
      Passage settings headless
        ([⟨.start, .ok started⟩, ⟨.forLaunch settings headless, .ok launched⟩,
          ⟨.forContext settings, .ok provided⟩, ⟨.newPage, .ok opened⟩] ++
          (calls ++ [⟨.close, closed⟩, ⟨.stop, stopped⟩]))

open BrowserOperation in
theorem Passage.orderly {settings : Settings} {headless : Option Bool}
    {transcript : Transcript} (passage : Passage settings headless transcript) :
    transcript.Orderly settings headless := by
  cases passage with
  | unstarted | unlaunched | unprovided | unopened =>
      constructor <;> simp [opening, forLaunch, forContext, isPage, isOpening]
  | used started launched provided opened calls pages closed stopped =>
      have absent (operation : BrowserOperation)
          (aside : operation.isPage = false) :
          operation ∉ calls.operations :=
        fun among => by simp [pages _ among] at aside
      have unused : calls.operations.filter (·.isOpening) = [] :=
        List.filter_eq_nil_iff.mpr fun _ among =>
          not_isOpening_of_isPage (pages _ among)
      constructor
      case starts => rfl
      case opens =>
        simp only [Transcript.operations_append, List.filter_append, unused]
        exact List.prefix_rfl
      case proceeds => simp [opening, forLaunch, forContext]
      case waits => simp
      case closes =>
        simp [forLaunch, forContext, List.count_eq_zero.mpr (absent .close rfl)]
      case rests =>
        -- Before the browser is closed there is no close, and behind that there
        -- is no page.
        rw [Transcript.operations_append, Transcript.operations_append,
          ← List.append_assoc]
        have before :
            ∀ operation ∈ opening settings headless ++ calls.operations,
            operation ≠ .close := by
          rintro operation among rfl
          exact absent .close rfl
            (by simpa [opening, forLaunch, forContext] using among)
        refine List.pairwise_append.mpr ⟨?_, by simp [isPage],
          fun _ among _ _ _ => before _ among⟩
        exact List.pairwise_of_forall_mem_list fun _ among _ _ _ =>
          before _ among
      case stops =>
        simp [forLaunch, forContext, List.count_eq_zero.mpr (absent .stop rfl)]
      case ends =>
        intro _
        rw [Transcript.operations_append, Transcript.operations_append,
          ← List.append_assoc]
        exact List.getLast?_append_of_ne_nil _ (by simp)

/-! ## The ways of a visit -/

namespace Visit

open Stateful

variable {browser : Browser τ} {settings : Settings} {headless : Option Bool}
  {visited between : Visited τ} {operation : BrowserOperation}
  {operations : List BrowserOperation} {answer : Json} {fault : SessionFault}

theorem order_apply (browser : Browser τ) (operation : BrowserOperation)
    (visited : Visited τ) :
    order browser operation visited =
      ((browser.perform operation visited.state).answer.map fun _ => (),
        browser.ask visited operation) := by
  rcases answered : (browser.perform operation visited.state).answer
    with fault | answer
  · exact bind_of_error (Prod.ext answered rfl)
  · exact bind_of_ok (Prod.ext answered rfl)

theorem order_of_ok
    (granted : (browser.perform operation visited.state).answer = .ok answer) :
    order browser operation visited =
      (.ok (), browser.ask visited operation) := by
  rw [order_apply, granted, Except.map]

theorem ensuring_closePage (browser : Browser τ) (body : Visit τ α)
    (visited : Visited τ) :
    ensuring body (closePage browser) visited =
      ((browser.transcript [.close, .stop] (body visited).2).outcome
        (body visited).1,
        [BrowserOperation.close, .stop].foldl browser.ask
        (body visited).2) := by
  rcases ran : body visited with ⟨result, worked⟩
  simp only [ensuring, closePage, leaving, ran, order_apply, Browser.transcript]
  cases (browser.perform .close worked.state).answer <;>
    cases (browser.perform .stop (browser.ask worked .close).state).answer <;>
      rfl

/-- A part of a visit ends with the last fault in answer to some operations that
are none of the page. -/
def Fails (browser : Browser τ) (part : Visit τ α) (visited : Visited τ)
    (operations : List BrowserOperation) : Prop :=
  ∃ fault, part visited = (.error fault, operations.foldl browser.ask visited) ∧
    (browser.transcript operations visited).faults.getLast? = some fault

namespace Fails

theorem order
    (refused : (browser.perform operation visited.state).answer = .error fault)
    (aside : operation.isPage = false) :
    Fails browser (order browser operation) visited [operation] := by
  refine ⟨fault, ?_, ?_⟩
  · rw [order_apply, refused]
    rfl
  · simp [Browser.transcript, Transcript.faults, refused, aside]

theorem bind {β : Type} {first : Visit τ α}
    (fails : Fails browser first visited operations) (next : α → Visit τ β) :
    Fails browser (first >>= next) visited operations := by
  obtain ⟨fault, ended, last⟩ := fails
  exact ⟨fault, bind_of_error ended, last⟩

theorem behind
    (granted : (browser.perform operation visited.state).answer = .ok answer)
    {next : Visit τ α}
    (fails : Fails browser next (browser.ask visited operation) operations) :
    Fails browser (do Visit.order browser operation; next) visited
      (operation :: operations) := by
  obtain ⟨fault, ended, last⟩ := fails
  refine ⟨fault, (bind_of_ok (order_of_ok granted)).trans ended, ?_⟩
  simpa [Browser.transcript, Transcript.faults, granted] using last

theorem onFault {first : Visit τ α}
    (fails : Fails browser first visited operations)
    (operation : BrowserOperation) (aside : operation.isPage = false) :
    Fails browser (onFault first (Visit.order browser operation)) visited
      (operations ++ [operation]) := by
  obtain ⟨fault, ended, last⟩ := fails
  rcases answered : (browser.perform operation
      (operations.foldl browser.ask visited).state).answer
    with later | _
  · refine ⟨later, ?_, ?_⟩
    · simp only [Visit.onFault, ended, order_apply, answered, List.foldl_append]
      rfl
    · simp [Browser.transcript, Browser.transcript_append, Transcript.faults,
        answered, aside]
  · refine ⟨fault, ?_, ?_⟩
    · simp only [Visit.onFault, ended, order_apply, answered, List.foldl_append]
      rfl
    · simpa [Browser.transcript, Browser.transcript_append, Transcript.faults,
        answered] using last

end Fails

/-- A visit whose page cannot be opened is left by the last fault of that. -/
theorem withPage_of_fails {body : Visit τ α} (used : Except SessionFault α)
    (fails : Fails browser (do
      order browser .start
      onFault
        (do order browser (.forLaunch settings headless)
            openOn browser settings)
        (order browser .stop)) visited operations) :
    withPage browser settings headless body visited =
      ((browser.transcript operations visited).outcome used,
        operations.foldl browser.ask visited) := by
  obtain ⟨fault, ended, last⟩ := fails
  have unopened : openPage browser settings headless visited =
      (.error fault.outward, operations.foldl browser.ask visited) := by
    rw [openPage, leaving, ended]
    rfl
  refine (bind_of_error unopened).trans ?_
  rw [Transcript.outcome, last]

theorem openPage_of_granted {started launched provided opened : Json}
    (starts : (browser.perform .start visited.state).answer = .ok started)
    (launches : (browser.perform (.forLaunch settings headless)
      (browser.ask visited .start).state).answer = .ok launched)
    (provides :
      (browser.perform (.forContext settings)
        (browser.ask (browser.ask visited .start)
          (.forLaunch settings headless)).state).answer = .ok provided)
    (opens :
      (browser.perform .newPage
        (browser.ask
          (browser.ask (browser.ask visited .start)
            (.forLaunch settings headless))
          (.forContext settings)).state).answer = .ok opened) :
    openPage browser settings headless visited =
      (.ok (), browser.opened settings headless visited) := by
  simp only [openPage, leaving, openOn, onFault,
    bind_of_ok (order_of_ok starts), bind_of_ok (order_of_ok launches),
    bind_of_ok (order_of_ok provides), order_of_ok opens]
  rfl

/-- On an open page the operations of the body stand between those that open the
page and the release. -/
theorem withPage_of_opened {body : Visit τ α} {calls : List BrowserOperation}
    (ready : openPage browser settings headless visited =
      (.ok (), browser.opened settings headless visited))
    (faultless :
      (browser.transcript (BrowserOperation.opening settings headless)
        visited).faults = []) (pages : ∀ operation ∈ calls, operation.isPage)
    (behind : (body (browser.opened settings headless visited)).2 =
      calls.foldl browser.ask (browser.opened settings headless visited)) :
    let operations :=
      BrowserOperation.opening settings headless ++ (calls ++ [.close, .stop])
    withPage browser settings headless body visited =
      ((browser.transcript operations visited).outcome
          (body (browser.opened settings headless visited)).1,
        operations.foldl browser.ask visited) := by
  have pageless :
      (browser.transcript calls
        (browser.opened settings headless visited)).faults = [] :=
    Transcript.faults_of_pages (by rwa [Browser.operations_transcript])
  intro operations
  rw [Browser.transcript_append, Browser.transcript_append, List.foldl_append,
    List.foldl_append, ← Browser.opened,
    Transcript.outcome_append_of_faults_eq_nil faultless,
    Transcript.outcome_append_of_faults_eq_nil pageless, ← behind]
  exact (bind_of_ok ready).trans (ensuring_closePage browser body _)

open BrowserOperation in
/-- Every visit goes one of the ways. It is left by the result that its
transcript says, and on an open page nothing is done but what the body does. -/
theorem withPage_passes (browser : Browser τ) (settings : Settings)
    (headless : Option Bool) {body : Visit τ α}
    (onPage : ∀ visited, browser.OnPage visited (body visited).2)
    (visited : Visited τ) :
    ∃ operations : List BrowserOperation,
      withPage browser settings headless body visited =
        ((browser.transcript operations visited).outcome
            (body (browser.opened settings headless visited)).1,
          operations.foldl browser.ask visited) ∧
      Passage settings headless (browser.transcript operations visited) ∧
      ((browser.transcript operations visited).grants .newPage →
        (body (browser.opened settings headless visited)).2 =
          (operations.filter (·.isPage)).foldl browser.ask
            (browser.opened settings headless visited)) := by
  -- The first of the four steps that is refused decides the way, and with it
  -- what is to be released.
  rcases starts : (browser.perform .start visited.state).answer
    with fault | started
  · refine ⟨_, withPage_of_fails _ (.bind (.order starts rfl) _), ?_⟩
    simp only [Browser.transcript, starts]
    exact ⟨.unstarted fault, nofun⟩
  rcases launches : (browser.perform (.forLaunch settings headless)
    (browser.ask visited .start).state).answer with fault | launched
  · refine ⟨_, withPage_of_fails _ (.behind starts
      (.onFault (.bind (.order launches rfl) _) .stop rfl)), ?_⟩
    simp only [Browser.transcript, starts, launches, List.singleton_append]
    exact ⟨.unlaunched started fault _, by simp [forLaunch]⟩
  rcases provides : (browser.perform (.forContext settings)
      (browser.ask (browser.ask visited .start)
        (.forLaunch settings headless)).state).answer
    with fault | provided
  · refine ⟨_, withPage_of_fails _ (.behind starts (.onFault (.behind launches
      (.onFault (.bind (.order provides rfl) _) .close rfl)) .stop rfl)), ?_⟩
    simp only [Browser.transcript, starts, launches, provides, List.cons_append,
      List.nil_append]
    exact ⟨.unprovided started launched fault _ _,
      by simp [forLaunch, forContext]⟩
  rcases opens : (browser.perform .newPage
    (browser.ask
      (browser.ask (browser.ask visited .start) (.forLaunch settings headless))
      (.forContext settings)).state).answer with fault | opened
  · refine ⟨_, withPage_of_fails _ (.behind starts (.onFault (.behind launches
      (.onFault (.behind provides (.order opens rfl)) .close rfl)) .stop rfl)),
      ?_⟩
    simp only [Browser.transcript, starts, launches, provides, opens,
      List.cons_append, List.nil_append]
    exact ⟨.unopened started launched provided fault _ _,
      by simp [forLaunch, forContext]⟩
  have stepped : browser.transcript (opening settings headless) visited =
      [⟨.start, .ok started⟩, ⟨.forLaunch settings headless, .ok launched⟩,
        ⟨.forContext settings, .ok provided⟩, ⟨.newPage, .ok opened⟩] := by
    simp only [opening, Browser.transcript, starts, launches, provides, opens]
  have faultless :
      (browser.transcript (opening settings headless) visited).faults = [] := by
    rw [stepped]
    rfl
  obtain ⟨calls, pages, behind⟩ :=
    onPage (browser.opened settings headless visited)
  refine ⟨_,
    withPage_of_opened (openPage_of_granted starts launches provides opens)
      faultless pages behind, ?_, fun _ => ?_⟩
  · rw [Browser.transcript_append, Browser.transcript_append, stepped]
    refine .used started launched provided opened _ ?_ _ _
    rwa [Browser.operations_transcript]
  · rw [List.filter_append, List.filter_append, List.filter_eq_self.mpr pages,
      behind]
    exact congrArg _ (List.append_nil _).symm

/-! ## Releases -/

/-- Whatever a browser answers and however its page is used: a visit keeps the
order of visits, on an open page nothing is done but what its use asks for, and
it is left by the last fault that was none of the page, or else by what the use
came to itself. -/
theorem withPage_releases (browser : Browser τ) (settings : Settings)
    (headless : Option Bool) (use : PageUse α) (visited : Visited τ) :
    let page := browser.opened settings headless visited
    let visit :=
      withPage browser settings headless (use.on browser settings) visited
    ∃ operations : List BrowserOperation,
      let transcript := browser.transcript operations visited
      visit.2 = operations.foldl browser.ask visited ∧
      transcript.Orderly settings headless ∧
      (transcript.grants .newPage →
        (use.on browser settings page).2 =
          (operations.filter (·.isPage)).foldl browser.ask page) ∧
      visit.1 = transcript.outcome (use.on browser settings page).1 := by
  obtain ⟨operations, ended, passage, used⟩ :=
    withPage_passes browser settings headless
      (onPage_use browser settings use) visited
  exact ⟨operations, congrArg Prod.snd ended, passage.orderly, used,
    congrArg Prod.fst ended⟩

/-- A visit to a scripted browser whose page is used for nothing but a
result. -/
private def rehearsed (failures : List (String × SessionFault))
    (result : Except SessionFault Unit) :
    Except SessionFault Unit × Visited Unit :=
  let script : BrowserScript := ⟨[], failures⟩
  withPage script.browser .rehearsal none
    ((PageUse.done result).on script.browser .rehearsal) ⟨(), [], 0⟩

/-- A fault of opening the page leaves as another one though closing succeeds,
if it says that an iteration has ended. A fault of the use of the page is lost,
though closing succeeds, if stopping fails. -/
theorem withPage_loses_faults :
    let ended : SessionFault := ⟨"StopIteration", "no more contexts", none⟩
    let own : SessionFault := ⟨"ValueError", "body raised", none⟩
    let lost : SessionFault := ⟨"RuntimeError", "Connection closed", none⟩
    (let failures := [("browser.new_context", ended)]
      let visit := rehearsed failures (.ok ())
      let transcript :=
        (BrowserScript.mk [] failures).browser.transcript
          visit.2.operations ⟨(), [], 0⟩
      transcript.faults = [ended] ∧ transcript.grants .close ∧
        visit.1 = .error ⟨"RuntimeError",
          "generator raised StopIteration", none⟩ ∧
        visit.1 ≠ .error ended) ∧
    (let failures := [("stop", lost)]
      let visit := rehearsed failures (.error own)
      let transcript :=
        (BrowserScript.mk [] failures).browser.transcript
          visit.2.operations ⟨(), [], 0⟩
      transcript.grants .close ∧ visit.1 = .error lost ∧
        visit.1 ≠ .error own) :=
  ⟨⟨rfl, rfl, rfl, nofun⟩, rfl, rfl, nofun⟩

end Visit

end PageFlow
