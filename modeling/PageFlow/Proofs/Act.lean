import Mathlib.Data.List.Forall2
import PageFlow.World.Page

/-!
# Laws of acts

An act is opened by one equation for each way of building it, so that later
proofs follow the result of one act into the next and never look at how results
and worlds are paired.
-/

namespace PageFlow

theorem exists_of_map_eq_ok {α β ε : Type} {result : Except ε α} {f : α → β}
    {value : β} (mapped : result.map f = .ok value) :
    ∃ inner, result = .ok inner ∧ f inner = value := by
  cases result with
  | error e => cases mapped
  | ok inner =>
      cases mapped
      exact ⟨inner, rfl, rfl⟩

theorem exists_of_bind_eq_ok {α β ε : Type} {result : Except ε α}
    {next : α → Except ε β} {value : β}
    (bound : (result >>= next) = .ok value) :
    ∃ inner, result = .ok inner ∧ next inner = .ok value := by
  cases result with
  | error e => cases bound
  | ok inner => exact ⟨inner, rfl, bound⟩

theorem or_of_bind_eq_error {α β ε : Type} {result : Except ε α}
    {next : α → Except ε β} {fault : ε}
    (failed : (result >>= next) = .error fault) :
    result = .error fault ∨ ∃ inner,
      result = .ok inner ∧ next inner = .error fault := by
  cases result with
  | error e =>
      cases failed
      exact .inl rfl
  | ok inner => exact .inr ⟨inner, rfl, failed⟩

theorem eq_ok_of_toOption {α ε : Type} {result : Except ε α} {value : α}
    (found : result.toOption = some value) : result = .ok value := by
  cases result with
  | error e => cases found
  | ok inner =>
      cases found
      rfl

theorem mapM_eq_ok {α β ε : Type} {f : α → Except ε β} {items : List α}
    {results : List β} :
    items.mapM f = .ok results ↔
      List.Forall₂ (fun item result => f item = .ok result) items results := by
  induction items generalizing results with
  | nil =>
      rw [List.mapM_nil, List.forall₂_nil_left_iff]
      exact ⟨fun done => (Except.ok.inj done).symm, fun none => none ▸ rfl⟩
  | cons item items induction =>
      rw [List.mapM_cons, List.forall₂_cons_left_iff]
      constructor
      · intro done
        obtain ⟨result, first, done⟩ := exists_of_bind_eq_ok done
        obtain ⟨later, rest, last⟩ := exists_of_bind_eq_ok done
        exact ⟨result, later, first, induction.mp rest,
          (Except.ok.inj last).symm⟩
      · rintro ⟨result, later, first, rest, rfl⟩
        rw [first, induction.mpr rest]
        rfl

theorem exists_of_forall₂ {α β : Type} {related : α → β → Prop} {items : List α}
    {results : List β} {item : α} (each : List.Forall₂ related items results)
    (member : item ∈ items) :
    ∃ result ∈ results, related item result := by
  induction each with
  | nil => cases member
  | cons first _ induction =>
      rcases List.mem_cons.mp member with rfl | later
      · exact ⟨_, List.mem_cons_self, first⟩
      · obtain ⟨result, among, found⟩ := induction later
        exact ⟨result, List.mem_cons_of_mem _ among, found⟩

theorem exists_forall₂_iff {α β : Type} {related : α → β → Prop}
    {items : List α} :
    (∃ results, List.Forall₂ related items results) ↔
      ∀ item ∈ items, ∃ result, related item result := by
  constructor
  · rintro ⟨results, each⟩ item member
    obtain ⟨result, _, found⟩ := exists_of_forall₂ each member
    exact ⟨result, found⟩
  · intro each
    induction items with
    | nil => exact ⟨[], .nil⟩
    | cons item items induction =>
        obtain ⟨⟨result, found⟩, later⟩ := List.forall_mem_cons.mp each
        obtain ⟨results, rest⟩ := induction later
        exact ⟨result :: results, .cons found rest⟩

theorem exists_of_mapM_eq_error {α β ε : Type} {f : α → Except ε β}
    {items : List α} {fault : ε} (failed : items.mapM f = .error fault) :
    ∃ item ∈ items, f item = .error fault := by
  induction items with
  | nil => cases failed
  | cons item items induction =>
      rw [List.mapM_cons] at failed
      obtain first | ⟨value, _, failed⟩ := or_of_bind_eq_error failed
      · exact ⟨item, List.mem_cons_self, first⟩
      · obtain later | ⟨values, _, failed⟩ := or_of_bind_eq_error failed
        · obtain ⟨other, member, found⟩ := induction later
          exact ⟨other, List.mem_cons_of_mem _ member, found⟩
        · cases failed

/-- A result is a value with one property or a fault with another. -/
def Yields {α ε : Type} (good : α → Prop) (bad : ε → Prop) : Except ε α → Prop
  | .ok value => good value
  | .error fault => bad fault

namespace Yields

variable {α β ε : Type} {good : α → Prop} {good' : β → Prop} {bad : ε → Prop}

theorem bind {result : Except ε α} {next : α → Except ε β}
    (first : Yields good bad result)
    (second : ∀ value, good value → Yields good' bad (next value)) :
    Yields good' bad (result >>= next) := by
  cases result with
  | error fault => exact first
  | ok value => exact second value first

theorem mono {result : Except ε α} {good' : α → Prop} {bad' : ε → Prop}
    (yields : Yields good bad result)
    (value : ∀ value, good value → good' value)
    (fault : ∀ fault, bad fault → bad' fault) : Yields good' bad' result := by
  cases result with
  | error found => exact fault found yields
  | ok found => exact value found yields

end Yields

/-! ## Binding -/

namespace Stateful

variable {ε σ α β : Type} {first : ExceptT ε (StateM σ) α}
  {next : α → ExceptT ε (StateM σ) β} {before between after : σ} {value : α}
  {fault : ε}

theorem bind_of_ok (done : first before = (.ok value, between)) :
    (first >>= next) before = next value between := by
  change ExceptT.bindCont next (first before).1 (first before).2 =
    next value between
  rw [done]
  rfl

theorem bind_of_error (failed : first before = (.error fault, after)) :
    (first >>= next) before = (.error fault, after) := by
  change ExceptT.bindCont next (first before).1 (first before).2 =
    (.error fault, after)
  rw [failed]
  rfl

end Stateful

namespace Act

variable {σ α β ε : Type}

@[simp] theorem pure_apply (value : α) (world : World σ) :
    (pure value : Act σ α) world = (.ok value, world) :=
  rfl

@[simp] theorem change_apply (f : World σ → World σ) (world : World σ) :
    change f world = (.ok (), f world) :=
  rfl

theorem bind_of_ok {act : Act σ α} {next : α → Act σ β}
    {world between : World σ} {value : α}
    (first : act world = (.ok value, between)) :
    (act >>= next) world = next value between :=
  Stateful.bind_of_ok first

theorem bind_of_error {act : Act σ α} {next : α → Act σ β}
    {world after : World σ} {fault : Fault}
    (first : act world = (.error fault, after)) :
    (act >>= next) world = (.error fault, after) :=
  Stateful.bind_of_error first

/-- An act and the next one give a value if both do, one behind the other. -/
theorem bind_eq_ok {act : Act σ α} {next : α → Act σ β} {world after : World σ}
    {value : β} :
    (act >>= next) world = (.ok value, after) ↔
      ∃ first between, act world = (.ok first, between) ∧
        next first between = (.ok value, after) := by
  constructor
  · intro both
    rcases first : act world with ⟨_ | result, between⟩
    · rw [bind_of_error first] at both
      cases both
    · rw [bind_of_ok first] at both
      exact ⟨result, between, rfl, both⟩
  · rintro ⟨result, between, first, second⟩
    rw [bind_of_ok first, second]

@[simp] theorem ask_bind (f : World σ → α) (next : α → Act σ β)
    (world : World σ) :
    (ask f >>= next) world = next (f world) world :=
  rfl

@[simp] theorem orFail_ok (fault : ε → Fault) (value : α) (world : World σ) :
    (orFail fault (.ok value) : Act σ α) world = (.ok value, world) :=
  rfl

theorem ensuring_eq_ok {first : Act σ α} {second : Act σ Unit}
    {world after : World σ} {value : α}
    (ended : ensuring first second world = (.ok value, after)) :
    ∃ between, first world = (.ok value, between) ∧
      second between = (.ok (), after) := by
  unfold ensuring at ended
  rcases opening : first world with ⟨result, between⟩
  rcases closing : second between with ⟨_ | _, last⟩ <;>
    simp only [opening, closing] at ended
  · cases ended
  · cases ended
    exact ⟨between, rfl, closing⟩

theorem orFail_eq_ok {fault : ε → Fault} {result : Except ε α}
    {world after : World σ} {value : α}
    (passed : orFail fault result world = (.ok value, after)) :
    result = .ok value ∧ after = world := by
  cases result with
  | error e => cases passed
  | ok found =>
      cases passed
      exact ⟨rfl, rfl⟩

theorem settle_of_ok {act : Act σ α} {world after : World σ} {value : α}
    (result : act world = (.ok value, after)) :
    settle act world = (.ok (.ok value), after) := by
  rw [settle, result]

theorem settle_of_error {act : Act σ α} {world after : World σ} {fault : Fault}
    (result : act world = (.error fault, after)) :
    settle act world =
      if fault.exits then (.error fault, after)
        else (.ok (.error fault), after) := by
  rw [settle, result]

/-- Of a reply the answer is handed on, the event is noted, and the time
passes. -/
theorem reply_eq (event : SessionEvent) (asked : Int → σ → Reply σ α)
    (world : World σ) :
    reply event asked world =
      ((asked world.clock world.session).answer.mapError .session,
        { world with
          session := (asked world.clock world.session).state
          events := world.events ++ [event]
          clock :=
            world.clock + (asked world.clock world.session).elapsed }) := by
  unfold reply
  dsimp only
  cases (asked world.clock world.session).answer <;> rfl

end Act

end PageFlow
