import PageFlow.Proofs.Templates

/-!
# Notices

What a console is told of a run, step by step, and of a smoke test. Whatever the
texts from outside are, the template of a notice is flat, since everything else
in it is fixed text, digits, and styles.
-/

namespace PageFlow

open PageFlow.Decimal PageFlow.Markup

/-! ## Numbers -/

theorem isClean_of_isDigit {c : Char} (digit : c.isDigit) :
    isClean c = true := by
  simp only [Char.isDigit, Bool.and_eq_true, decide_eq_true_eq,
    UInt32.le_iff_toNat_le] at digit
  have number : 48 ≤ c.toNat ∧ c.toNat ≤ 57 := digit
  have other (d : Char) (outside : d.toNat < 48 ∨ 57 < d.toNat) : c ≠ d := by
    rintro rfl
    omega
  have opens := other '[' (by decide)
  have closes := other ']' (by decide)
  have slash := other '\\' (by decide)
  simp only [isClean, isDropped, Bool.and_eq_true, bne_iff_ne, ne_eq,
    Bool.not_eq_true', Bool.or_eq_false_iff, beq_eq_false_iff_ne]
  refine ⟨⟨⟨opens, closes⟩, slash⟩, ?_⟩
  omega

theorem clean_natDigits (n : Nat) : Clean (natDigits n) := by
  apply List.all_eq_true.mpr
  intro c member
  exact isClean_of_isDigit
    (Nat.isDigit_of_mem_toDigits (by decide) (by decide) member)

theorem clean_toString (n : Nat) : Clean (toString n).toList := by
  rw [Nat.toString_eq_ofList_toDigits, String.toList_ofList]
  exact clean_natDigits n

theorem clean_intText (n : Int) : Clean (intText n).toList := by
  unfold intText
  split
  · have digits :
        (String.ofList (natDigits n.natAbs)).toList = natDigits n.natAbs :=
      String.toList_ofList
    rw [String.toList_append, clean_append, digits]
    exact ⟨by decide, clean_natDigits n.natAbs⟩
  · rw [String.toList_ofList]
    exact clean_natDigits n.natAbs

theorem Markup.Clean.sublist {s t : List Char} (clean : Clean t)
    (within : s.Sublist t) : Clean s :=
  List.all_eq_true.mpr fun c member =>
    List.all_eq_true.mp clean c (within.subset member)

theorem clean_replicate {c : Char} (clean : isClean c = true) (count : Nat) :
    Clean (List.replicate count c) := by
  apply List.all_eq_true.mpr
  intro d member
  rw [List.eq_of_mem_replicate member]
  exact clean

theorem clean_fixedText (places num den : Nat) :
    Clean (fixedText places num den).toList := by
  have digits : Clean (padZeros (places + 1)
      (natDigits (roundDiv (num * Nat.pow 10 places) den))) := by
    rw [padZeros, clean_append]
    exact ⟨clean_replicate (by decide) _, clean_natDigits _⟩
  rw [fixedText, String.toList_ofList, clean_append]
  refine ⟨digits.sublist (List.take_sublist _ _), ?_⟩
  exact clean_cons.mpr ⟨by decide, digits.sublist (List.drop_sublist _ _)⟩

theorem clean_fixed (places : Nat) (x : Binary64) :
    Clean (x.fixed places).toList := by
  cases x with
  | finite negative units =>
      rw [Binary64.fixed, String.toList_append, clean_append]
      refine ⟨?_, clean_fixedText _ _ _⟩
      cases negative <;> decide
  | infinite negative =>
      change Clean (Binary64.infinite negative).text.toList
      cases negative <;> decide
  | nan =>
      change Clean Binary64.nan.text.toList
      decide

theorem clean_durationText (ms : Int) :
    Clean (Report.durationText ms).toList := by
  unfold Report.durationText
  split
  · rw [String.toList_append, clean_append]
    exact ⟨clean_intText ms, by decide⟩
  · rw [String.toList_append, clean_append]
    exact ⟨clean_fixed _ _, by decide⟩

/-! ## Reports -/

namespace Report

theorem clean_rule : Clean rule.toList := by
  have same : rule.toList = List.replicate 50 '─' := String.toList_ofList
  rw [same]
  exact clean_replicate (by decide) 50

theorem clean_bar : Clean bar.toList := by
  have same : bar.toList = List.replicate 50 '=' := String.toList_ofList
  rw [same]
  exact clean_replicate (by decide) 50

theorem flat_timing (ms : Int) : Flat (timing ms) := by
  apply flat_styled (by decide) (.fixed ?_)
  rw [String.toList_append, String.toList_append, clean_append, clean_append]
  exact ⟨⟨by decide, clean_durationText ms⟩, by decide⟩

theorem flat_errorLine {error : Option String} {line : List Part}
    (member : line ∈ errorLine error) : Flat line := by
  unfold errorLine at member
  split at member
  · cases member
  · split at member
    · cases member
    · cases List.mem_singleton.mp member
      exact flat_styled (by decide) (.user (by decide) (by decide))

theorem flat_header (name baseUrl : String) : Flat (header name baseUrl) := by
  apply flat_joinLines
  simp only [List.forall_mem_cons, List.not_mem_nil, false_implies,
    implies_true, and_true]
  refine ⟨.fixed (by decide) .nil, ?_, ?_, ?_⟩
  · exact flat_styled (by decide) (.user (by decide) (by decide))
  · exact flat_styled (by decide) (.user (by decide) (by decide))
  · exact flat_styled (by decide) (.fixed clean_rule)

theorem flat_stepLines (outcome : Outcome) (index : Nat) :
    Flat (stepLines outcome index) := by
  unfold stepLines
  split
  · split
    · apply flat_joinLines
      intro line member
      rcases List.mem_cons.mp member with rfl | member
      · exact flat_styled (by decide) (.user (by decide) (by decide))
      · split at member
        · cases member
        · split at member
          · cases member
          · cases List.mem_singleton.mp member
            exact flat_styled (by decide) (.user (by decide) (by decide))
    · exact (flat_styled (by decide) (.user (by decide) (by decide))).append
        (flat_timing _)
  · apply flat_joinLines
    intro line member
    rcases List.mem_cons.mp member with rfl | member
    · exact (flat_styled (by decide) (.user (by decide) (by decide))).append
        (flat_timing _)
    · exact flat_errorLine member

theorem flat_verdict (result : RunResult) : Flat (verdict result) := by
  unfold verdict
  dsimp only
  split <;> refine flat_styled (by decide) (.fixed ?_) <;>
    simp only [String.toList_append, clean_append, clean_intText, and_true] <;>
      decide

theorem flat_summary (result : RunResult) : Flat (summary result) := by
  apply flat_joinLines
  simp only [List.forall_mem_append, List.forall_mem_cons, List.not_mem_nil,
    false_implies, implies_true, and_true]
  refine ⟨⟨⟨.fixed (by decide) .nil, ?_, flat_verdict result, ?_⟩, ?_⟩,
    .fixed (by decide) .nil⟩
  · exact flat_styled (by decide) (.fixed clean_rule)
  · apply flat_styled (by decide) (.fixed ?_)
    rw [String.toList_append, clean_append]
    exact ⟨by decide, clean_durationText _⟩
  · intro line member
    split at member
    · cases member
    · cases List.mem_singleton.mp member
      exact flat_styled (by decide)
        (.between (by decide) (by decide) (by decide) (by decide))

theorem flat_smoke (result : SmokeResult) : Flat (smoke result) := by
  apply flat_joinLines
  simp only [List.forall_mem_append, List.forall_mem_cons, List.not_mem_nil,
    false_implies, implies_true, and_true]
  refine ⟨⟨⟨.fixed (by decide) .nil, ?_, ?_⟩, ?_⟩, .fixed (by decide) .nil⟩
  · exact flat_styled (by decide) (.user (by decide) (by decide))
  · exact flat_styled (by decide) (.fixed clean_rule)
  · split
    · simp only [List.forall_mem_cons, List.not_mem_nil, false_implies,
        implies_true, and_true]
      constructor
      · exact (flat_styled (by decide) (.fixed (by decide))).append
          (flat_timing _)
      · exact flat_styled (by decide) (.fixed (by decide))
    · simp only [List.forall_mem_append, List.forall_mem_cons, List.not_mem_nil,
        false_implies, implies_true, and_true]
      refine ⟨⟨?_, fun line => flat_errorLine⟩, ?_⟩
      · exact (flat_styled (by decide) (.fixed (by decide))).append
          (flat_timing _)
      · exact flat_styled (by decide) (.fixed (by decide))

theorem flat_batch (result : BatchResult) : Flat (batch result) := by
  apply flat_joinLines
  simp only [List.forall_mem_cons, List.not_mem_nil, false_implies,
    implies_true, and_true]
  refine ⟨.fixed (by decide) .nil, .fixed clean_bar .nil, .fixed ?_ .nil,
    .fixed clean_bar .nil, .fixed (by decide) .nil⟩
  simp only [String.toList_append, clean_append, clean_intText, clean_toString,
    and_true]
  decide

end Report

/-- What a console is told of a run, of a smoke test, and of several runs. -/
inductive Notice where
  | header (name baseUrl : String)
  | step (outcome : Outcome) (index : Nat)
  | summary (result : RunResult)
  | smoke (result : SmokeResult)
  | batch (result : BatchResult)

def Notice.parts : Notice → List Part
  | .header name baseUrl => Report.header name baseUrl
  | .step outcome index => Report.stepLines outcome index
  | .summary result => Report.summary result
  | .smoke result => Report.smoke result
  | .batch result => Report.batch result

theorem Notice.flat (notice : Notice) : Flat notice.parts := by
  cases notice with
  | header name baseUrl => exact Report.flat_header name baseUrl
  | step outcome index => exact Report.flat_stepLines outcome index
  | summary result => exact Report.flat_summary result
  | smoke result => exact Report.flat_smoke result
  | batch result => exact Report.flat_batch result

end PageFlow
