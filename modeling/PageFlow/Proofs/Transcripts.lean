import Mathlib.Data.List.Basic
import PageFlow.Browser
import PageFlow.Proofs.Act

/-!
# Transcripts

A visit to a browser asks for operations, and the browser answers them one by
one. The transcript of a visit holds both. Whoever uses an open page can add
nothing to it but operations on that page.
-/

namespace PageFlow

variable {τ α β : Type}

def BrowserOperation.isPage : BrowserOperation → Bool
  | .page _ => true
  | _ => false

structure Exchange where
  operation : BrowserOperation
  answer : Except SessionFault Json

namespace Exchange

def fault? (exchange : Exchange) : Option SessionFault :=
  match exchange.answer with
  | .ok _ => none
  | .error fault => some fault

@[simp] theorem fault?_ok (operation : BrowserOperation) (answer : Json) :
    fault? ⟨operation, .ok answer⟩ = none :=
  rfl

@[simp] theorem fault?_error (operation : BrowserOperation)
    (fault : SessionFault) :
    fault? ⟨operation, .error fault⟩ = some fault :=
  rfl

end Exchange

/-- What a browser was asked for and how it answered, in order. -/
abbrev Transcript := List Exchange

namespace Transcript

variable {transcript first second : Transcript} {exchange : Exchange}
  {operation : BrowserOperation}

def operations (transcript : Transcript) : List BrowserOperation :=
  transcript.map (·.operation)

/-- An operation was asked for, and answered without a fault. -/
def grants (transcript : Transcript) (operation : BrowserOperation) : Bool :=
  transcript.any fun exchange =>
    exchange.operation = operation && exchange.fault?.isNone

/-- The faults in answer to everything but the operations on the page. -/
def faults (transcript : Transcript) : List SessionFault :=
  transcript.filterMap fun exchange => if exchange.operation.isPage then none
    else exchange.fault?

/-- What a visit comes to if its page came to something: the last fault that was
none of the page goes outward, and without one there is what the page came
to. -/
def outcome (transcript : Transcript) (used : Except SessionFault α) :
    Except SessionFault α :=
  match transcript.faults.getLast? with
  | some fault => .error fault.outward
  | none => used

@[simp] theorem operations_nil : operations [] = [] :=
  rfl

@[simp] theorem operations_cons :
    operations (exchange :: transcript) =
      exchange.operation :: transcript.operations :=
  rfl

@[simp] theorem operations_append :
    operations (first ++ second) = first.operations ++ second.operations :=
  List.map_append

@[simp] theorem grants_nil : grants [] operation = false :=
  rfl

@[simp] theorem grants_cons :
    grants (exchange :: transcript) operation =
      (exchange.operation = operation && exchange.fault?.isNone ||
        transcript.grants operation) :=
  rfl

@[simp] theorem grants_append :
    grants (first ++ second) operation =
      (first.grants operation || second.grants operation) :=
  List.any_append

theorem faults_append :
    faults (first ++ second) = first.faults ++ second.faults :=
  List.filterMap_append

theorem faults_of_pages
    (pages : ∀ operation ∈ transcript.operations, operation.isPage) :
    transcript.faults = [] :=
  List.filterMap_eq_nil_iff.mpr fun _ member =>
    if_pos (pages _ (List.mem_map_of_mem member))

theorem outcome_append_of_faults_eq_nil (none : first.faults = [])
    (used : Except SessionFault α) :
    outcome (first ++ second) used = second.outcome used := by
  rw [outcome, faults_append, none, List.nil_append, outcome]

end Transcript

namespace Browser

/-- A visit behind one more operation. -/
def ask (browser : Browser τ) (visited : Visited τ)
    (operation : BrowserOperation) : Visited τ :=
  let reply := browser.perform operation visited.state
  ⟨reply.state, visited.operations ++ [operation],
    visited.elapsed + reply.elapsed⟩

/-- The transcript of operations that are asked for from some point of a visit
on. -/
def transcript (browser : Browser τ) :
    List BrowserOperation → Visited τ → Transcript
  | [], _ => []
  | operation :: rest, visited =>
    ⟨operation, (browser.perform operation visited.state).answer⟩ ::
      browser.transcript rest (browser.ask visited operation)

theorem transcript_append (browser : Browser τ)
    (first second : List BrowserOperation) (visited : Visited τ) :
    browser.transcript (first ++ second) visited =
      browser.transcript first visited ++ browser.transcript second
        (first.foldl browser.ask visited) := by
  induction first generalizing visited with
  | nil => rfl
  | cons operation first induction => exact congrArg _ (induction _)

theorem operations_transcript (browser : Browser τ)
    (operations : List BrowserOperation) (visited : Visited τ) :
    (browser.transcript operations visited).operations = operations := by
  induction operations generalizing visited with
  | nil => rfl
  | cons operation operations induction => exact congrArg _ (induction _)

end Browser

/-! ## The use of a page -/

/-- What is done with an open page: calls one after another, each chosen by the
answers and the faults of those before it, until there is a value or a fault. -/
inductive PageUse (α : Type) where
  | done (result : Except SessionFault α)
  | call (call : Call) (next : Except SessionFault Json → PageUse α)

def PageUse.on (browser : Browser τ) (settings : Settings) :
    PageUse α → Visit τ α
  | .done result => fun visited => (result, visited)
  | .call asked next => fun visited =>
    let (answer, after) := Visit.call browser settings asked visited
    (next answer).on browser settings after

theorem PageUse.on_call (browser : Browser τ) (settings : Settings)
    (asked : Call) (next : Except SessionFault Json → PageUse α)
    (visited : Visited τ) :
    (PageUse.call asked next).on browser settings visited =
      (next (Visit.call browser settings asked visited).1).on browser settings
        (Visit.call browser settings asked visited).2 :=
  rfl

/-- Between two points of a visit there is nothing but operations on the
page. -/
def Browser.OnPage (browser : Browser τ) (before after : Visited τ) : Prop :=
  ∃ operations : List BrowserOperation,
    (∀ operation ∈ operations, operation.isPage) ∧
    after = operations.foldl browser.ask before

namespace Browser.OnPage

variable {browser : Browser τ} {before between after : Visited τ}

theorem refl (visited : Visited τ) : browser.OnPage visited visited :=
  ⟨[], List.forall_mem_nil _, rfl⟩

theorem trans (first : browser.OnPage before between)
    (second : browser.OnPage between after) :
    browser.OnPage before after := by
  obtain ⟨operations, pages, rfl⟩ := first
  obtain ⟨further, morePages, rfl⟩ := second
  exact ⟨operations ++ further, List.forall_mem_append.mpr ⟨pages, morePages⟩,
    List.foldl_append.symm⟩

end Browser.OnPage

namespace Visit

open Stateful

theorem onPage_perform (browser : Browser τ) (operation : PageOperation)
    (visited : Visited τ) :
    browser.OnPage visited (perform browser (.page operation) visited).2 :=
  ⟨[.page operation], List.forall_mem_singleton.mpr rfl, rfl⟩

theorem onPage_bind {browser : Browser τ} {visited : Visited τ}
    {first : Visit τ α} {next : α → Visit τ β}
    (onPage : browser.OnPage visited (first visited).2)
    (later : ∀ value between, browser.OnPage between (next value between).2) :
    browser.OnPage visited ((first >>= next) visited).2 := by
  rcases ran : first visited with ⟨fault | value, between⟩ <;>
    rw [ran] at onPage
  · rw [bind_of_error ran]
    exact onPage
  · rw [bind_of_ok ran]
    exact onPage.trans (later value between)

theorem onPage_call (browser : Browser τ) (settings : Settings) (asked : Call)
    (visited : Visited τ) :
    browser.OnPage visited (call browser settings asked visited).2 := by
  have told (operation : PageOperation) (visited : Visited τ) :
      browser.OnPage visited
        ((do let _ ← perform browser (.page operation)
             return Json.null : Visit τ Json) visited).2 :=
    onPage_bind (onPage_perform _ _ _) fun _ => .refl
  cases asked
  case scrollIntoView locator =>
    refine onPage_bind (onPage_perform _ _ _) fun _ between => ?_
    split
    · exact .refl between
    · exact told _ between
  case textContent | title =>
    exact onPage_bind (onPage_perform _ _ _) fun _ => .refl
  case evaluate | content => exact onPage_perform _ _ _
  all_goals exact told _ _

/-- However a page is used, that is done on the page alone. -/
theorem onPage_use (browser : Browser τ) (settings : Settings) (use : PageUse α)
    (visited : Visited τ) :
    browser.OnPage visited (use.on browser settings visited).2 := by
  induction use generalizing visited with
  | done result => exact .refl visited
  | call asked next induction =>
      rw [PageUse.on_call]
      exact (onPage_call browser settings asked visited).trans (induction _ _)

end Visit

end PageFlow
