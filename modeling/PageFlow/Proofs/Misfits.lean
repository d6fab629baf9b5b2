import Mathlib.Data.List.Forall2
import PageFlow.Proofs.Act
import PageFlow.Proofs.LowerCase
import PageFlow.Proofs.Splitting
import PageFlow.Yaml.Number

/-!
# Scalars that do not fit their kind

A tag may give a scalar a kind that its text has no form of. Four kinds take
that form for granted, since a scalar without a tag has it: truth values,
integers, numbers with a fraction, and dates. Their faults are then not the ones
that a text of the right form can have. One fault is like these and needs no
tag: a number with a fraction may have so many parts in base sixty that no
weight is left for the first of them.
-/

namespace PageFlow.Yaml

open PageFlow.Decimal PageFlow.Text

/-- A fault that no check of a text raises: what was taken for granted does not
hold. -/
def Fault.isStray : Fault → Bool
  | .emptyNumber | .numberSize | .truth
    _ | .timestamp | .notText | .endless | .codePointSize =>
      true
  | _ => false

/-- A text has nothing of the form of a kind, and the fault that comes of it: it
is no word for a truth value, there is nothing behind the sign of an integer,
there is no number at all, or no date is written. -/
inductive Misfit : Kind → String → Fault → Prop where
  | truth {text : String} :
      lower text ∉ ["yes", "true", "on", "no", "false", "off"] →
        Misfit .truth text (.truth (lower text))
  | int {text : String} :
      text.toList.filter (· ≠ '_') ∈ [[], ['+'], ['-']] →
        Misfit .int text .emptyNumber
  | float {text : String} : text.toList.filter (· ≠ '_') = [] →
    Misfit .float text .emptyNumber
  | timestamp {text : String} :
      Spelling.splitStamp (Spelling.withoutBreak text.toList) = none →
        Misfit .timestamp text .timestamp

theorem Misfit.isStray {kind : Kind} {text : String} {fault : Fault}
    (misfit : Misfit kind text fault) : fault.isStray = true := by
  cases misfit <;> rfl

/-- A text has more parts in base sixty than there are powers of sixty among the
numbers. -/
def Overlong (text : String) : Prop :=
  174 ≤ text.toList.count ':'

/-! ## Parts in base sixty -/

theorem spacing_le (units : Nat) : Binary64.spacing units ≤ units + 1 := by
  rcases Nat.eq_zero_or_pos units with rfl | positive
  · decide
  · calc
      Binary64.spacing units ≤ Nat.pow 2 (Nat.log2 units) :=
        Nat.pow_le_pow_right (by decide) (Nat.sub_le _ _)
      _ ≤ units := Nat.log2_self_le (Nat.ne_of_gt positive)
      _ ≤ units + 1 := Nat.le_succ units

/-- An integer below half of the numbers' range is near to a finite number. -/
theorem isFinite_ofInt {n half : Nat}
    (range : Binary64.overflow = 2 * (half * Binary64.one)) (small : n < half) :
    (Binary64.ofInt n).isFinite = true := by
  have scaled : n * Binary64.one < half * Binary64.one :=
    Nat.mul_lt_mul_of_pos_right small (by decide +kernel)
  unfold Binary64.ofInt Binary64.ofRatio
  dsimp only
  rw [Int.natAbs_natCast, Nat.div_one, Nat.one_mul]
  generalize n * Binary64.one = units at scaled ⊢
  have near :=
    (roundDiv_near units (Binary64.spacing units) (Nat.pow_pos (by decide))).2
  have gap := spacing_le units
  rw [Nat.mul_assoc] at near
  have below :
      roundDiv units (Binary64.spacing units) * Binary64.spacing units <
        Binary64.overflow := by
    omega
  rw [if_pos below]
  rfl

/-- There are weights for the first one hundred and seventy-four parts, the last
of them first. -/
theorem exists_sumSixties {parts : List Binary64} {total : Binary64} {k : Nat}
    (few : k + parts.length ≤ 174) :
    ∃ sum, sumSixties total (Nat.pow 60 k) parts = .ok sum := by
  induction parts generalizing total k with
  | nil => exact ⟨total, rfl⟩
  | cons part parts induction =>
      rw [List.length_cons] at few
      have range : Binary64.overflow = 2 * (Nat.pow 2 1023 * Binary64.one) := by
        decide +kernel
      have finite : (Binary64.ofInt (Nat.pow 60 k)).isFinite = true :=
        isFinite_ofInt range (calc
          Nat.pow 60 k ≤ Nat.pow 60 173 :=
            Nat.pow_le_pow_right (by decide) (by omega)
          _ < Nat.pow 2 1023 := by decide +kernel)
      rw [sumSixties, if_pos finite]
      have rest : k + 1 + parts.length ≤ 174 := by omega
      exact induction rest

theorem eq_numberSize_of_sumSixties {parts : List Binary64} {total : Binary64}
    {weight : Nat} {fault : Fault}
    (failed : sumSixties total weight parts = .error fault) :
    fault = .numberSize := by
  induction parts generalizing total weight with
  | nil => cases failed
  | cons part parts induction =>
      rw [sumSixties] at failed
      split at failed
      · exact induction failed
      · cases failed
        rfl

/-! ## Colons in lower case -/

/-- No character but a colon has a colon for its lower case. -/
theorem count_lowerIn_le (before behind : List Char) (c : Char) :
    (lowerIn before behind c).count ':' ≤ [c].count ':' := by
  unfold lowerIn
  split
  · have other (final : Bool) : ':' ∉ [smallSigma final] := by
      cases final <;> decide
    rw [List.count_eq_zero.mpr (other _)]
    exact Nat.zero_le _
  · by_cases colon : c = ':'
    · rw [colon]
      decide
    · rw [List.count_eq_zero.mpr fun member =>
        colon (eq_of_mem_lowerChar member (by decide))]
      exact Nat.zero_le _

theorem count_lowerChars_le (s : List Char) :
    (lowerChars s).count ':' ≤ s.count ':' := by
  have inside (before : List Char) :
      (lowerPart before [] s).count ':' ≤ s.count ':' := by
    induction s generalizing before with
    | nil => exact Nat.zero_le _
    | cons c s induction =>
        have first := count_lowerIn_le before (s ++ []) c
        rw [lowerPart, List.count_append, show c :: s = [c] ++ s from rfl,
          List.count_append]
        exact Nat.add_le_add first (induction _)
  exact lowerChars_eq s ▸ inside []

/-! ## Numbers -/

theorem isStray_of_integerIn {base : Nat} {s : List Char} {fault : Fault}
    (failed : integerIn base s = .error fault) : fault.isStray = false := by
  unfold integerIn at failed
  dsimp only at failed
  generalize withoutMarker base _ = digits at failed
  split at failed
  · cases failed
    rfl
  · split at failed
    · cases failed
      rfl
    · cases failed

theorem isStray_of_numberIn {s : List Char} {fault : Fault}
    (failed : numberIn s = .error fault) : fault.isStray = false := by
  unfold numberIn at failed
  split at failed
  · cases failed
  · cases failed
    rfl

theorem eq_nil_of_unsignedInteger {s : List Char} {fault : Fault}
    (failed : unsignedInteger s = .error fault) (stray : fault.isStray = true) :
    s = [] ∧ fault = .emptyNumber := by
  have checked {base : Nat} {part : List Char}
      (found : integerIn base part = .error fault) : False :=
    Bool.noConfusion (stray.symm.trans (isStray_of_integerIn found))
  unfold unsignedInteger at failed
  split at failed
  · cases failed
    exact ⟨rfl, rfl⟩
  · cases failed
  · exact (checked failed).elim
  · exact (checked failed).elim
  · exact (checked failed).elim
  · split at failed
    · obtain parts | ⟨_, _, failed⟩ := or_of_bind_eq_error failed
      · obtain ⟨part, _, found⟩ := exists_of_mapM_eq_error parts
        exact (checked found).elim
      · cases failed
    · exact (checked failed).elim

/-- Of a number without a sign only the weights of its parts are not checked. -/
theorem le_count_of_unsignedNumber {s : List Char} {fault : Fault}
    (failed : unsignedNumber s = .error fault) (stray : fault.isStray = true) :
    fault = .numberSize ∧ 174 ≤ s.count ':' := by
  have checked {part : List Char} (found : numberIn part = .error fault) :
      False :=
    Bool.noConfusion (stray.symm.trans (isStray_of_numberIn found))
  unfold unsignedNumber at failed
  split at failed
  · cases failed
  · split at failed
    · cases failed
    · split at failed
      · obtain parts | ⟨parts, found, failed⟩ := or_of_bind_eq_error failed
        · obtain ⟨part, _, found⟩ := exists_of_mapM_eq_error parts
          exact (checked found).elim
        · have length : parts.length = s.count ':' + 1 :=
            (mapM_eq_ok.mp found).length_eq.symm.trans (length_splitOn s)
          -- With fewer colons there is a weight for every part, and the sum
          -- cannot fail.
          refine ⟨eq_numberSize_of_sumSixties failed, not_lt.mp fun few => ?_⟩
          obtain ⟨sum, added⟩ :=
            @exists_sumSixties parts.reverse (.finite false 0) 0 (by
            rw [List.length_reverse]
            omega)
          cases failed.symm.trans added
      · exact (checked failed).elim

/-! ## Misfits -/

theorem eq_nil_of_splitSign {s : List Char} {fault : Fault}
    (failed : splitSign s = .error fault) :
    s = [] ∧ fault = .emptyNumber := by
  unfold splitSign at failed
  split at failed
  · cases failed
    exact ⟨rfl, rfl⟩
  all_goals cases failed

theorem eq_sign_of_splitSign {s : List Char} {negative : Bool}
    (sign : splitSign s = .ok (negative, [])) : s = ['+'] ∨ s = ['-'] := by
  unfold splitSign at sign
  split at sign
  · cases sign
  · cases sign
    exact .inr rfl
  · cases sign
    exact .inl rfl
  · rename_i some _ _
    cases sign
    exact (some rfl).elim

theorem misfit_of_integerValue {text : String} {fault : Fault}
    (failed : integerValue text = .error fault) (stray : fault.isStray = true) :
    Misfit .int text fault := by
  obtain unsigned | ⟨⟨negative, rest⟩, sign, failed⟩ :=
    or_of_bind_eq_error failed
  · obtain ⟨empty, rfl⟩ := eq_nil_of_splitSign unsigned
    exact .int (List.mem_cons.mpr (.inl empty))
  · obtain value | ⟨_, _, failed⟩ := or_of_bind_eq_error failed
    · obtain ⟨rfl, rfl⟩ := eq_nil_of_unsignedInteger value stray
      refine .int (List.mem_cons.mpr (.inr ?_))
      rcases eq_sign_of_splitSign sign with only | only
      · rw [only]
        decide
      · rw [only]
        decide
    · cases failed

theorem count_of_splitSign_le {s rest : List Char} {negative : Bool}
    (sign : splitSign s = .ok (negative, rest)) :
    rest.count ':' ≤ s.count ':' := by
  unfold splitSign at sign
  split at sign
  all_goals cases sign
  · exact List.count_le_count_cons
  · exact List.count_le_count_cons
  · exact Nat.le_refl _

/-- A number with a fraction is missing without a check where it has no text, or
too many parts. -/
theorem or_of_numberValue {text : String} {fault : Fault}
    (failed : numberValue text = .error fault) (stray : fault.isStray = true) :
    Misfit .float text fault ∨ fault = .numberSize ∧ Overlong text := by
  obtain unsigned | ⟨⟨negative, rest⟩, sign, failed⟩ :=
    or_of_bind_eq_error failed
  · obtain ⟨empty, rfl⟩ := eq_nil_of_splitSign unsigned
    exact .inl (.float (not_not.mp fun some => lowerChars_ne_nil some empty))
  · obtain value | ⟨_, _, failed⟩ := or_of_bind_eq_error failed
    · obtain ⟨rfl, many⟩ := le_count_of_unsignedNumber value stray
      refine .inr ⟨rfl, calc
        174 ≤ rest.count ':' := many
        _ ≤ (lowerChars (text.toList.filter (· ≠ '_'))).count ':' :=
          count_of_splitSign_le sign
        _ ≤ (text.toList.filter (· ≠ '_')).count ':' := count_lowerChars_le _
        _ = text.toList.count ':' := List.count_filter (by decide)⟩
    · cases failed

theorem misfit_of_truthValue {text : String} {fault : Fault}
    (failed : truthValue text = .error fault) : Misfit .truth text fault := by
  unfold truthValue at failed
  dsimp only at failed
  split at failed
  · cases failed
  · split at failed
    · cases failed
    · rename_i yes no
      cases failed
      refine .truth fun word => ?_
      simp_all

theorem misfit_of_timestampValue {text : String} {fault : Fault}
    (failed : timestampValue text = .error fault)
    (stray : fault.isStray = true) :
    Misfit .timestamp text fault := by
  unfold timestampValue at failed
  split at failed
  · cases failed
    exact .timestamp ‹_›
  · dsimp only at failed
    split at failed
    all_goals
      split at failed
      · cases failed
      · cases failed
        cases stray

theorem isStray_of_binaryValue {text : String} {fault : Fault}
    (failed : binaryValue text = .error fault) : fault.isStray = false := by
  unfold binaryValue at failed
  dsimp only at failed
  split at failed
  · split at failed
    · cases failed
    · cases failed
      rfl
  · cases failed
    rfl

/-- The value of a scalar is missing without a check where the text does not fit
the kind at all, or is a number with too many parts. -/
theorem or_of_scalarValue {kind : Kind} {text : String} {fault : Fault}
    (failed : scalarValue kind text = .error fault)
    (stray : fault.isStray = true) :
    Misfit kind text fault ∨ fault = .numberSize ∧ Overlong text := by
  cases kind with
  | truth => exact .inl (misfit_of_truthValue failed)
  | int => exact .inl (misfit_of_integerValue failed stray)
  | float => exact or_of_numberValue failed stray
  | timestamp => exact .inl (misfit_of_timestampValue failed stray)
  | binary =>
      exact Bool.noConfusion (stray.symm.trans (isStray_of_binaryValue failed))
  | _ => cases failed <;> cases stray

/-- A text that does not fit its kind has no value. -/
theorem Misfit.scalarValue {kind : Kind} {text : String} {fault : Fault}
    (misfit : Misfit kind text fault) :
    scalarValue kind text = .error fault := by
  cases misfit with
  | truth other =>
      simp only [List.mem_cons, List.not_mem_nil, or_false, not_or] at other
      simp [Yaml.scalarValue, truthValue, other]
  | int empty =>
      simp only [List.mem_cons, List.not_mem_nil, or_false] at empty
      rw [Yaml.scalarValue, integerValue]
      rcases empty with none | none | none <;> rw [none] <;> rfl
  | float empty =>
      rw [Yaml.scalarValue, numberValue, empty]
      rfl
  | timestamp other => simp [Yaml.scalarValue, timestampValue, other]

/-! ## Kinds that texts show by their spelling -/

open Spelling

/-- What a text looks like that shows one of the four kinds, but for a line
break at its end. -/
theorem shown_of_ofSpelling {text : String} {kind : Kind}
    (spelled : Kind.ofSpelling text = kind) :
    (kind = .truth → String.ofList (withoutBreak text.toList) ∈ truthWords) ∧
      (kind = .float → isFloat (withoutBreak text.toList) = true) ∧
      (kind = .int → isInt (withoutBreak text.toList) = true) ∧
      (kind = .timestamp → isTimestamp (withoutBreak text.toList) = true) := by
  subst spelled
  unfold Kind.ofSpelling
  dsimp only
  generalize withoutBreak text.toList = s
  repeat' split
  all_goals simp_all

theorem mem_of_mem_withoutBreak {s : List Char} {c : Char}
    (member : c ∈ withoutBreak s) : c ∈ s := by
  unfold withoutBreak at member
  split at member
  · exact List.mem_of_mem_dropLast member
  · exact member

/-- A text that is no longer itself without a line break at its end has one. -/
theorem eq_append_of_withoutBreak {s : List Char}
    (shorter : withoutBreak s ≠ s) :
    s = withoutBreak s ++ ['\n'] := by
  unfold withoutBreak at shorter ⊢
  split at shorter
  · rename_i last
    rw [if_pos last]
    exact (List.dropLast_append_getLast? _ last).symm
  · exact absurd rfl shorter

theorem mem_of_mem_withoutSign {s : List Char} {c : Char}
    (member : c ∈ withoutSign s) : c ∈ s := by
  unfold withoutSign at member
  split at member
  · exact List.mem_cons_of_mem _ member
  · exact List.mem_cons_of_mem _ member
  · exact member

theorem exists_digit_of_splitGroups {s rest : List Char}
    (groups : splitGroups s = some rest) : ∃ c ∈ s, c.isDigit = true := by
  unfold splitGroups at groups
  split at groups
  · split at groups
    · exact ⟨_, List.mem_cons_self, ‹_›⟩
    · cases groups
  · cases groups

theorem exists_digit_of_isInt {s : List Char} (int : isInt s = true) :
    ∃ c ∈ s, c.isDigit = true := by
  obtain ⟨c, member, digit⟩ : ∃ c ∈ withoutSign s, c.isDigit = true := by
    unfold isInt at int
    dsimp only at int
    split at int
    all_goals rename_i body
    · exact ⟨'0', body ▸ List.mem_cons_self, rfl⟩
    · exact ⟨'0', body ▸ List.mem_cons_self, rfl⟩
    · exact ⟨'0', body ▸ List.mem_cons_self, rfl⟩
    · exact ⟨'0', body ▸ List.mem_cons_self, rfl⟩
    · rename_i c rest _ _ _ _
      exact ⟨c, body ▸ List.mem_cons_self, (Bool.and_eq_true_iff.mp int).1⟩
    · cases int
  exact ⟨c, mem_of_mem_withoutSign member, digit⟩

theorem exists_digit_of_sixties {s : List Char}
    (parts : (splitGroups s).bind sixties ≠ none) :
    ∃ c ∈ s, c.isDigit = true := by
  cases groups : splitGroups s with
  | none => simp [groups] at parts
  | some rest => exact exists_digit_of_splitGroups groups

/-- A number with a fraction holds a digit or is a word that begins with a
point. -/
theorem exists_of_isFloat {s : List Char} (float : isFloat s = true) :
    ∃ c ∈ s, c.isDigit = true ∨ c = '.' := by
  have unsigned {c : Char} (member : c ∈ withoutSign s)
      (shape : c.isDigit = true ∨ c = '.') :
      ∃ c ∈ s, c.isDigit = true ∨ c = '.' :=
    ⟨c, mem_of_mem_withoutSign member, shape⟩
  unfold isFloat at float
  simp only [Bool.or_eq_true] at float
  rcases float with (((decimal | fraction) | sixty) | infinite) | undefined
  · split at decimal
    · obtain ⟨c, member, digit⟩ := exists_digit_of_splitGroups ‹_›
      exact unsigned member (.inl digit)
    · cases decimal
  · split at fraction
    · exact ⟨'.', List.mem_cons_self, .inr rfl⟩
    · cases fraction
  · split at sixty
    · rename_i rest parts
      obtain ⟨c, member, digit⟩ :=
        exists_digit_of_sixties (s := withoutSign s) (by rw [parts]; simp)
      exact unsigned member (.inl digit)
    · cases sixty
  · have point : '.' ∈ withoutSign s := by
      simp only [List.contains_eq_mem, decide_eq_true_eq, List.mem_cons,
        List.not_mem_nil, or_false] at infinite
      rcases infinite with word | word | word <;>
        · rw [← String.toList_ofList (l := withoutSign s), word]
          decide
    exact unsigned point (.inr rfl)
  · refine ⟨'.', ?_, .inr rfl⟩
    simp only [List.contains_eq_mem, decide_eq_true_eq, List.mem_cons,
      List.not_mem_nil, or_false] at undefined
    rcases undefined with word | word | word <;>
      · rw [← String.toList_ofList (l := s), word]
        decide

/-- A kind that is shown by the spelling fits it, with one exception: a word for
a truth value shows its kind with a line break behind it, too, but is no such
word then. -/
theorem exists_of_misfit_ofSpelling {text : String} {fault : Fault}
    (misfit : Misfit (Kind.ofSpelling text) text fault) :
    ∃ word ∈ truthWords, text = word ++ "\n" ∧ fault = .truth (lower text) := by
  -- What is shown of the four kinds is kept apart from the text, so that the
  -- kind can be generalized.
  obtain ⟨truth, float, int, timestamp⟩ := @shown_of_ofSpelling text _ rfl
  generalize Kind.ofSpelling text = kind at *
  cases misfit with
  | truth other =>
      have word := truth rfl
      refine ⟨_, word, ?_, rfl⟩
      have shorter : withoutBreak text.toList ≠ text.toList := by
        intro same
        have words : truthWords.all (fun word =>
            ["yes", "true", "on", "no", "false", "off"].contains (lower word)) =
              true := by
          decide +kernel
        rw [same, String.ofList_toList] at word
        exact other
          (List.contains_iff_mem.mp (List.all_eq_true.mp words text word))
      calc
        text = String.ofList text.toList := String.ofList_toList.symm
        _ = String.ofList (withoutBreak text.toList ++ ['\n']) :=
          congrArg String.ofList (eq_append_of_withoutBreak shorter)
        _ = String.ofList (withoutBreak text.toList) ++ "\n" :=
          String.ofList_append
  | int empty =>
      obtain ⟨c, member, digit⟩ := exists_digit_of_isInt (int rfl)
      have kept : c ∈ text.toList.filter (· ≠ '_') :=
        List.mem_filter.mpr ⟨mem_of_mem_withoutBreak member,
          decide_eq_true fun same => by subst same; cases digit⟩
      simp only [List.mem_cons, List.not_mem_nil, or_false] at empty
      rcases empty with none | only | only
      · rw [none] at kept
        cases kept
      all_goals
        rw [only, List.mem_singleton] at kept
        subst kept
        cases digit
  | float empty =>
      obtain ⟨c, member, shape⟩ := exists_of_isFloat (float rfl)
      have kept : c ∈ text.toList.filter (· ≠ '_') :=
        List.mem_filter.mpr ⟨mem_of_mem_withoutBreak member,
          decide_eq_true fun same => by subst same; revert shape; decide⟩
      rw [empty] at kept
      cases kept
  | timestamp other =>
      have date := timestamp rfl
      rw [isTimestamp, other] at date
      cases date

end PageFlow.Yaml
