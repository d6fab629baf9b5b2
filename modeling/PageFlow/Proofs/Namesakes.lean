import Mathlib.Data.List.Dedup
import PageFlow.Proofs.Rehearsal
import PageFlow.Proofs.Turns

/-!
# Namesakes

A batch tells the errors of its sources by their names. Results are never lost,
and neither are errors as long as no two of the sources that fail have one name.
Of namesakes only the last error is told.
-/

namespace PageFlow

open Act

variable {σ : Type} {driver : Driver σ} {runner : Runner} {options : RunOptions}

/-! ## Errors by name -/

namespace BatchResult

/-- The errors of a batch behind some failures, each of which is told under its
name. -/
def tell (errors failures : List (String × String)) : List (String × String) :=
  failures.foldl (fun errors failure => addError.put failure.1 failure.2 errors)
    errors

theorem lookup_put (name message other : String)
    (errors : List (String × String)) :
    (addError.put name message errors).lookup other =
      if other = name then some message else errors.lookup other := by
  induction errors with
  | nil => exact lookup_entry name other message []
  | cons entry errors induction =>
      obtain ⟨first, told⟩ := entry
      rw [addError.put]
      by_cases here : first = name
      · rw [if_pos here, lookup_entry, lookup_entry, here]
        split <;> rfl
      · rw [if_neg here, lookup_entry, lookup_entry, induction]
        by_cases same : other = first
        · rw [if_pos same, if_pos same, if_neg (same ▸ here)]
        · rw [if_neg same, if_neg same]

theorem names_put (name message : String) (errors : List (String × String)) :
    (addError.put name message errors).map Prod.fst =
      if name ∈ errors.map Prod.fst then errors.map Prod.fst
      else errors.map Prod.fst ++ [name] := by
  induction errors with
  | nil => rfl
  | cons entry errors induction =>
      rw [addError.put]
      by_cases here : entry.1 = name
      · simp [here]
      · have apart : ¬ name = entry.1 := Ne.symm here
        rw [if_neg here, List.map_cons, induction]
        by_cases among : name ∈ errors.map Prod.fst <;> simp [among, apart]

/-- The error of a name is the last one that was told under it. -/
theorem lookup_tell (name : String) (errors failures : List (String × String)) :
    (tell errors failures).lookup name =
      (failures.reverse.lookup name).or (errors.lookup name) := by
  induction failures generalizing errors with
  | nil => rfl
  | cons failure failures induction =>
      have last : (failures.reverse ++ [failure]).lookup name =
          (failures.reverse.lookup name).or ([failure].lookup name) :=
        List.lookup_append
      rw [tell, List.foldl_cons, ← tell, induction, lookup_put,
        List.reverse_cons, last, Option.or_assoc]
      rw [show [failure].lookup name = if name = failure.1 then some failure.2
        else none from lookup_entry failure.1 name failure.2 []]
      split <;> rfl

theorem mem_names_tell (name : String)
    (errors failures : List (String × String)) :
    name ∈ (tell errors failures).map Prod.fst ↔
      name ∈ errors.map Prod.fst ∨ name ∈ failures.map Prod.fst := by
  induction failures generalizing errors with
  | nil => simp [tell]
  | cons failure failures induction =>
      rw [tell, List.foldl_cons, ← tell, induction, names_put, List.map_cons,
        List.mem_cons]
      split
      · rename_i among
        constructor
        · rintro (there | later)
          · exact .inl there
          · exact .inr (.inr later)
        · rintro (there | rfl | later)
          · exact .inl there
          · exact .inl among
          · exact .inr later
      · rw [List.mem_append, List.mem_singleton, or_assoc]

theorem nodup_names_tell {errors : List (String × String)}
    (distinct : (errors.map Prod.fst).Nodup)
    (failures : List (String × String)) :
    ((tell errors failures).map Prod.fst).Nodup := by
  induction failures generalizing errors with
  | nil => exact distinct
  | cons failure failures induction =>
      rw [tell, List.foldl_cons, ← tell]
      refine induction ?_
      rw [names_put]
      split
      · exact distinct
      · rename_i fresh
        exact distinct.append (List.nodup_singleton _)
          (List.disjoint_singleton.mpr fresh)

theorem names_tell (failures : List (String × String)) :
    (tell [] failures).map Prod.fst = (failures.map Prod.fst).eraseDups := by
  induction failures using List.reverseRecOn with
  | nil => rfl
  | append_singleton failures failure induction =>
      have behind : tell [] (failures ++ [failure]) =
          addError.put failure.1 failure.2 (tell [] failures) := by
        rw [tell, List.foldl_append]
        rfl
      rw [behind, names_put, induction, List.map_append, List.eraseDups_append]
      by_cases among : failure.1 ∈ failures.map Prod.fst
      · simp [List.removeAll, among, List.mem_eraseDups]
      · simp [List.removeAll, among, List.mem_eraseDups, List.eraseDups_cons]

theorem length_tell (failures : List (String × String)) :
    (tell [] failures).length = (failures.map Prod.fst).dedup.length := by
  have told :
      ((tell [] failures).map Prod.fst).Perm (failures.map Prod.fst).dedup := by
    refine (List.perm_ext_iff_of_nodup (nodup_names_tell (by simp) failures)
      (List.nodup_dedup _)).mpr fun name => ?_
    rw [mem_names_tell, List.mem_dedup]
    simp
  rw [← List.length_map (f := Prod.fst), told.length_eq]

theorem put_of_notMem {name message : String} {errors : List (String × String)}
    (fresh : name ∉ errors.map Prod.fst) :
    addError.put name message errors = errors ++ [(name, message)] := by
  induction errors with
  | nil => rfl
  | cons entry errors induction =>
      rw [List.map_cons, List.mem_cons, not_or] at fresh
      rw [addError.put, if_neg (Ne.symm fresh.1), induction fresh.2,
        List.cons_append]

theorem tell_of_nodup {errors failures : List (String × String)}
    (distinct : ((errors ++ failures).map Prod.fst).Nodup) :
    tell errors failures = errors ++ failures := by
  induction failures generalizing errors with
  | nil => exact (List.append_nil errors).symm
  | cons failure failures induction =>
      have fresh : failure.1 ∉ errors.map Prod.fst := by
        rw [List.map_append, List.map_cons] at distinct
        exact fun among =>
          (List.disjoint_of_nodup_append distinct) among List.mem_cons_self
      have split :
          errors ++ failure :: failures = (errors ++ [failure]) ++
            failures := by
        simp
      rw [tell, List.foldl_cons, ← tell, put_of_notMem fresh, split]
      rw [split] at distinct
      exact induction distinct

/-- What is told of a name is the message of the last failure under it. -/
theorem mem_tell_iff {failures : List (String × String)}
    {name message : String} :
    (name, message) ∈ tell [] failures ↔
      failures.reverse.lookup name = some message := by
  have distinct : ((tell [] failures).map Prod.fst).Nodup :=
    nodup_names_tell (by simp) failures
  rw [mem_iff_lookup distinct, lookup_tell, List.lookup_nil, Option.or_none]

end BatchResult

/-! ## What turns add to a batch -/

namespace Turn

def result? (turn : Turn σ) : Option RunResult :=
  turn.result.toOption

/-- The name of the source and the message of its fault. -/
def failure? (turn : Turn σ) : Option (String × String) :=
  match turn.result with
  | .ok _ => none
  | .error fault => some (turn.source.text, fault.message)

theorem foldl_addTo (turns : List (Turn σ)) (batch : BatchResult) :
    turns.foldl addTo batch =
      ⟨batch.results ++ turns.filterMap result?,
        BatchResult.tell batch.errors (turns.filterMap failure?)⟩ := by
  induction turns generalizing batch with
  | nil => simp [BatchResult.tell]
  | cons turn turns induction =>
      rw [List.foldl_cons, induction]
      rcases came : turn.result with fault | result <;>
        simp [addTo, result?, failure?, came, Except.toOption,
          BatchResult.addResult, BatchResult.addError, BatchResult.tell]

/-- A batch that no fault ends comes to what its turns add to it. -/
theorem eq_of_comeTo {halt : Option Fault} {turns : List (Turn σ)}
    {batch final : BatchResult} (came : comeTo halt turns batch = .ok final) :
    halt = none ∧ final = turns.foldl addTo batch := by
  unfold comeTo at came
  split at came
  · cases came
  · exact ⟨rfl, (Except.ok.inj came).symm⟩

/-- Every turn has a result or a failure, and never both. -/
theorem length_results_add_failures (turns : List (Turn σ)) :
    (turns.filterMap result?).length + (turns.filterMap failure?).length =
      turns.length := by
  induction turns with
  | nil => rfl
  | cons turn turns induction =>
      rcases came : turn.result with fault | result <;>
        simp [result?, failure?, came, Except.toOption] at induction ⊢ <;> omega

theorem sources_all_prefix (attempt : FlowSource → Act σ RunResult)
    (options : RunOptions) (sources : List FlowSource) (world : World σ) :
    (all attempt options sources world).map (·.source) <+: sources := by
  induction sources generalizing world with
  | nil => exact List.prefix_rfl
  | cons source sources induction =>
      rcases all_cons attempt options source sources world with
        none | ⟨-, one⟩ | ⟨-, more⟩
      · rw [none]
        exact List.nil_prefix
      · rw [one]
        exact ⟨sources, rfl⟩
      · rw [more, List.map_cons]
        exact (List.prefix_cons_inj source).mpr (induction _)

/-- Every source takes its turn where failures do not stop a batch, and no fault
ends it. -/
theorem sources_all {attempt : FlowSource → Act σ RunResult}
    {options : RunOptions} (goesOn : options.stopOnFailure = false)
    {sources : List FlowSource} {world : World σ}
    (unstopped : halt? attempt options sources world = none) :
    (all attempt options sources world).map (·.source) = sources := by
  induction sources generalizing world with
  | nil => rfl
  | cons source sources induction =>
      cases named : source.key with
      | error fault =>
          rw [(all_of_unnamed named sources).2] at unstopped
          cases unstopped
      | ok name =>
          cases last : (take attempt source world).isLast options with
          | true =>
              -- Only a request to stop would be the last turn.
              rw [(all_of_isLast named last sources).2] at unstopped
              rcases came : (take attempt source world).result with _ | _ <;>
                simp [stop?, isLast, came, goesOn] at unstopped last
              exact absurd last (by simp [unstopped])
          | false =>
              obtain ⟨more, halts⟩ := all_of_goesOn named last sources
              rw [halts] at unstopped
              rw [more, List.map_cons, induction unstopped]
              rfl

end Turn

namespace Runner

/-- A batch that has come to its end has a result for each source that gave one,
and for each name under which sources have failed it has one error, the last. So
each source that took its turn is accounted for exactly if no two of those that
have failed share their name; and then every failure is told. -/
theorem runAll_tells_by_name {sources : List FlowSource} {world after : World σ}
    {batch : BatchResult}
    (ended : runner.runAll driver options sources world = (.ok batch, after)) :
    let turns := Turn.all (runner.run driver options) options sources world
    let failures := turns.filterMap Turn.failure?
    turns.map (·.source) <+: sources ∧
      (options.stopOnFailure = false → turns.map (·.source) = sources) ∧
      batch.results = turns.filterMap Turn.result? ∧
      batch.results.length + failures.length = turns.length ∧
      batch.errors.length = (failures.map Prod.fst).dedup.length ∧
      (∀ name message, (name, message) ∈ batch.errors ↔
        failures.reverse.lookup name = some message) ∧
      (batch.results.length + batch.errors.length = turns.length ↔
        (failures.map Prod.fst).Nodup) ∧
      ((failures.map Prod.fst).Nodup → batch.errors = failures) := by
  intro turns failures
  obtain ⟨output, ran⟩ := runAll_eq_turns runner driver options sources world
  have came : Turn.comeTo (Turn.halt? (runner.run driver options) options
      sources world) turns .empty = .ok batch :=
    (congrArg Prod.fst ran).symm.trans (congrArg Prod.fst ended)
  obtain ⟨unstopped, rfl⟩ := Turn.eq_of_comeTo came
  have whole := Turn.length_results_add_failures turns
  have names := BatchResult.length_tell failures
  rw [Turn.foldl_addTo]
  refine ⟨Turn.sources_all_prefix _ _ _ _,
    fun goesOn => Turn.sources_all goesOn unstopped, ?_, whole, names,
    fun name message => BatchResult.mem_tell_iff, ?_, ?_⟩
  · rfl
  · change (turns.filterMap Turn.result?).length +
      (BatchResult.tell [] failures).length = _ ↔ _
    rw [names]
    constructor
    · intro all
      have full :
          (failures.map Prod.fst).dedup.length =
            (failures.map Prod.fst).length := by
        rw [List.length_map]
        exact Nat.add_left_cancel (all.trans whole.symm)
      exact List.dedup_eq_self.mp ((List.dedup_sublist _).eq_of_length full)
    · intro distinct
      rw [distinct.dedup, List.length_map]
      exact whole
  · exact fun distinct => BatchResult.tell_of_nodup distinct

/-- A flow with nothing to do. -/
private def idle (name : String) : Flow :=
  ⟨name, none, none, []⟩

/-- A batch of which a document is asked for. -/
private def listed : RunOptions :=
  { RunOptions.none with json := true }

/-- Two files are missing, and the flow between them is run: one result and two
errors. -/
theorem runAll_tells_by_name_missing :
    let runner : Runner := ⟨.rehearsal, .absent, .off⟩
    let sources := [.file "first", .flow (idle "Login"), .file "second"]
    let world := World.rehearsal .plain ⟨[], []⟩
    ∃ batch after, runner.runAll Script.plain.driver listed sources world =
      (.ok batch, after) ∧
      batch.results.length + batch.errors.length = sources.length ∧
      batch.errors = [("first", "Test flow file not found: first"),
        ("second", "Test flow file not found: second")] := by
  intro runner sources world
  have failures :
      (Turn.all (runner.run Script.plain.driver listed) listed sources
        world).filterMap
      Turn.failure? = [("first", "Test flow file not found: first"),
        ("second", "Test flow file not found: second")] := by
    decide +kernel
  have ends :
      (runner.runAll Script.plain.driver listed sources
        world).1.toOption.isSome := by
    decide +kernel
  rcases ended : runner.runAll Script.plain.driver listed sources world
    with ⟨_ | batch, after⟩
  · rw [ended] at ends
    cases ends
  · obtain ⟨_, whole, _, _, _, _, all, own⟩ := runAll_tells_by_name ended
    rw [failures] at all own
    refine ⟨batch, after, rfl, ?_, own (by decide)⟩
    exact (all.mpr (by decide)).trans
      ((List.length_map _).symm.trans (congrArg List.length (whole rfl)))

/-- Sessions cannot be launched. -/
private def unlaunched : Driver Unit where
  launch _ _ _ :=
    ⟨.error ⟨"RuntimeError", "browser not installed", none⟩, 0, ()⟩
  perform _ _ _ := ⟨.ok "", 0, ()⟩
  release _ _ := ⟨.ok (), 0, ()⟩

/-- A missing file and a flow of the same name: two sources fail, and one error
is told. -/
theorem runAll_forgets_namesake :
    let runner : Runner := ⟨.rehearsal, .absent, .off⟩
    let sources := [.file "Login", .flow (idle "Login")]
    let world : World Unit := .before () ⟨[], []⟩
    let turns := Turn.all (runner.run unlaunched listed) listed sources world
    let batch : BatchResult := ⟨[], [("Login", "browser not installed")]⟩
    (runner.runAll unlaunched listed sources world).1 = .ok batch ∧
      turns.map (·.source.key) = sources.map FlowSource.key ∧
      turns.filterMap Turn.failure? =
        [("Login", "Test flow file not found: Login"),
          ("Login", "browser not installed")] ∧
      batch.results.length + batch.errors.length ≠ sources.length ∧
      ("Login", "Test flow file not found: Login") ∉ batch.errors := by
  intro runner sources world turns batch
  have taken : (turns.map (·.source.key), turns.filterMap Turn.failure?) =
      ([.ok "Login", .ok "Login"],
        [("Login", "Test flow file not found: Login"),
          ("Login", "browser not installed")]) := by
    decide +kernel
  obtain ⟨keys, failures⟩ := Prod.mk.inj taken
  have facts : ((runner.runAll unlaunched listed sources world).1.toOption.map
      fun batch => (batch.results.length, batch.errors)) =
        some (0, [("Login", "browser not installed")]) := by
    decide +kernel
  refine ⟨?_, keys, failures, by decide, by decide⟩
  rcases ended : (runner.runAll unlaunched listed sources world).1
    with _ | ⟨results, errors⟩
  · rw [ended] at facts
    cases facts
  · rw [ended] at facts
    simp only [Except.toOption, Option.map_some, Option.some.injEq,
      Prod.mk.injEq, List.length_eq_zero_iff] at facts
    rw [facts.1, facts.2]

end Runner

end PageFlow
