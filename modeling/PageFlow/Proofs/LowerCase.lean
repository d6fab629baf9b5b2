import Mathlib.Data.List.Infix
import Mathlib.Data.List.TakeWhile
import PageFlow.Text.Case

/-!
# Lower case in context

Lower case is a matter of single characters but for the capital sigma, whose
form depends on what stands around it. A part of a text has the lower case that
it has by itself as long as its sigmas keep their forms, and this says which
texts keep them in every context.
-/

namespace PageFlow.Text

variable {s before behind other later : List Char}

/-- All characters are passed over when a cased one is looked for. -/
def Ignorable (s : List Char) : Prop :=
  ∀ c ∈ s, inRanges caseIgnorableRanges c.toNat = true

instance : DecidablePred Ignorable :=
  fun s => decidable_of_iff
    (s.all fun c => inRanges caseIgnorableRanges c.toNat) List.all_eq_true

theorem nearestIsCased_append_of_ignorable (ignorable : Ignorable s)
    (outer : List Char) :
    nearestIsCased (s ++ outer) = nearestIsCased outer := by
  rw [nearestIsCased, List.dropWhile_append_of_pos ignorable]
  rfl

theorem nearestIsCased_append (notable : ¬ Ignorable s) (outer : List Char) :
    nearestIsCased (s ++ outer) = nearestIsCased s := by
  have stops :
      s.dropWhile (fun c => inRanges caseIgnorableRanges c.toNat) ≠ [] := by
    intro passed
    exact notable (List.dropWhile_eq_nil_iff.mp passed)
  rw [nearestIsCased, nearestIsCased, List.dropWhile_append,
    if_neg (by simpa using stops)]
  cases rest : s.dropWhile (fun c => inRanges caseIgnorableRanges c.toNat) with
  | nil => exact (stops rest).elim
  | cons c rest => rfl

theorem nearestIsCased_of_ignorable (ignorable : Ignorable s) :
    nearestIsCased s = false := by
  rw [← List.append_nil s, nearestIsCased_append_of_ignorable ignorable]
  rfl

theorem ignorable_reverse : Ignorable s.reverse ↔ Ignorable s := by
  simp [Ignorable]

/-! ## Parts of texts -/

/-- Between these characters, the nearest of each side first, a sigma ends a
word. -/
def endsWord (before behind : List Char) : Bool :=
  nearestIsCased before && !nearestIsCased behind

def smallSigma (final : Bool) : Char :=
  Char.ofNat (if final then 0x3c2 else 0x3c3)

def lowerIn (before behind : List Char) (c : Char) : List Char :=
  if c = 'Σ' then [smallSigma (endsWord before behind)] else lowerChar c

/-- Lower case of a part of a text, between the characters before it, nearest
first, and those behind it. -/
def lowerPart (before behind : List Char) : List Char → List Char
  | [] => []
  | c :: rest =>
      lowerIn before (rest ++ behind) c ++ lowerPart (c :: before) behind rest

theorem lowerAfter_eq (before s : List Char) :
    lowerAfter before s = lowerPart before [] s := by
  induction s generalizing before with
  | nil => rfl
  | cons c rest induction =>
      have sigma : c.toNat = 0x3a3 ↔ c = 'Σ' :=
        ⟨fun same => Char.ext (UInt32.toNat_inj.mp same),
          fun same => same ▸ rfl⟩
      rw [lowerAfter, lowerPart, induction, lowerIn, List.append_nil]
      by_cases same : c = 'Σ' <;> simp [sigma, same, smallSigma, endsWord]

theorem lowerChars_eq (s : List Char) : lowerChars s = lowerPart [] [] s :=
  lowerAfter_eq [] s

theorem lowerPart_append (before behind s t : List Char) :
    lowerPart before behind (s ++ t) =
      lowerPart before (t ++ behind) s ++ lowerPart (s.reverse ++ before)
        behind t := by
  induction s generalizing before with
  | nil => rfl
  | cons c s induction =>
      simp [lowerPart, induction]

theorem length_lowerIn (c : Char) (before behind other later : List Char) :
    (lowerIn before behind c).length = (lowerIn other later c).length := by
  unfold lowerIn
  split <;> rfl

theorem length_lowerIn_pos (before behind : List Char) (c : Char) :
    0 < (lowerIn before behind c).length := by
  unfold lowerIn lowerChar
  split
  · simp
  · dsimp only
    split
    · simp
    · split <;> simp

/-- How long the lower case of a part is does not depend on what stands around
it. -/
theorem length_lowerPart (s before behind other later : List Char) :
    (lowerPart before behind s).length = (lowerPart other later s).length := by
  induction s generalizing before other with
  | nil => rfl
  | cons c s induction =>
      rw [lowerPart, lowerPart, List.length_append, List.length_append,
        length_lowerIn c before _ other (s ++ later),
        induction (c :: before) (c :: other)]

/-! ## Signs and digits -/

theorem toNat_charOfNat (n : Nat) :
    (Char.ofNat n).toNat = n ∨ (Char.ofNat n).toNat = 0 := by
  by_cases valid : n.isValidChar
  · rw [Char.ofNat, dif_pos valid]
    exact .inl rfl
  · rw [Char.ofNat, dif_neg valid]
    exact .inr rfl

/-- A character in front of the small letters is the lower case of no other
one. -/
theorem eq_of_mem_lowerChar {mark c : Char} (member : mark ∈ lowerChar c)
    (early : 0 < mark.toNat ∧ mark.toNat < 0x61) : c = mark := by
  have late :
      caseRuns.all (fun run => 0x61 ≤ (run.first : Int) + run.shift) =
        true := by
    decide +kernel
  unfold lowerChar at member
  dsimp only at member
  split at member
  · simp only [List.mem_cons, List.not_mem_nil, or_false] at member
    rcases member with rfl | rfl <;> exact absurd early (by decide)
  · split at member
    · rename_i run found
      have covered := List.find?_some found
      have away :=
        List.all_eq_true.mp late run (List.mem_of_find?_eq_some found)
      rw [List.mem_singleton] at member
      simp only [CaseRun.covers, Bool.and_eq_true, decide_eq_true_eq] at covered
      simp only [decide_eq_true_eq] at away
      have code :
          mark.toNat = (Char.ofNat ((c.toNat : Int) + run.shift).toNat).toNat :=
        congrArg Char.toNat member
      rcases toNat_charOfNat ((c.toNat : Int) + run.shift).toNat
        with same | none <;> omega
    · exact (List.mem_singleton.mp member).symm

/-- A sign or digit stands in the lower case of a text exactly if it stands in
the text. -/
theorem mem_lowerPart {mark : Char} (early : 0 < mark.toNat ∧ mark.toNat < 0x61)
    (own : lowerChar mark = [mark]) (before behind s : List Char) :
    mark ∈ lowerPart before behind s ↔ mark ∈ s := by
  have greek (final : Bool) : ¬ (smallSigma final).toNat < 0x61 := by
    cases final <;> decide
  have inside (before behind : List Char) (c : Char) :
      mark ∈ lowerIn before behind c ↔ c = mark := by
    unfold lowerIn
    split
    · rename_i sigma
      have apart : mark ∉ [smallSigma (endsWord before behind)] := fun member =>
        greek _ (List.mem_singleton.mp member ▸ early.2)
      refine iff_of_false apart fun same => ?_
      rw [← same, sigma] at early
      exact absurd early.2 (by decide)
    · exact ⟨fun member => eq_of_mem_lowerChar member early,
        fun same => by simp [same, own]⟩
  induction s generalizing before with
  | nil => rfl
  | cons c s induction =>
      have later : mark ∈ lowerPart (c :: before) behind s ↔ mark ∈ s :=
        induction _
      rw [lowerPart, List.mem_append, inside, later, List.mem_cons, eq_comm]

theorem mem_lowerChars {mark : Char}
    (early : 0 < mark.toNat ∧ mark.toNat < 0x61) (own : lowerChar mark = [mark])
    (s : List Char) : mark ∈ lowerChars s ↔ mark ∈ s :=
  lowerChars_eq s ▸ mem_lowerPart early own [] [] s

/-! ## Forms of sigmas -/

/-- Every sigma of a text has one form between the first two texts and between
the other two. -/
def SameForms (before behind other later s : List Char) : Prop :=
  ∀ front back, s = front ++ 'Σ' :: back →
    endsWord (front.reverse ++ before) (back ++ behind) =
      endsWord (front.reverse ++ other) (back ++ later)

theorem sameForms_cons {c : Char} :
    SameForms before behind other later (c :: s) ↔
      (c = 'Σ' → endsWord before (s ++ behind) = endsWord other (s ++ later)) ∧
        SameForms (c :: before) behind (c :: other) later s := by
  constructor
  · intro same
    constructor
    · rintro rfl
      exact same [] s rfl
    · intro front back split
      have forms := same (c :: front) back (by rw [split]; rfl)
      simpa using forms
  · rintro ⟨first, rest⟩ front back split
    cases front with
    | nil =>
        cases split
        exact first rfl
    | cons d front =>
        obtain ⟨rfl, tail⟩ := List.cons.inj split
        simpa using rest front back tail

theorem smallSigma_inj {final ending : Bool} :
    smallSigma final = smallSigma ending ↔ final = ending := by
  cases final <;> cases ending <;> decide

/-- A text has one lower case in two contexts exactly if its sigmas have the
same forms there. -/
theorem lowerPart_eq_iff :
    lowerPart before behind s = lowerPart other later s ↔
      SameForms before behind other later s := by
  induction s generalizing before other with
  | nil =>
      constructor
      · intro _ front back split
        cases front <;> cases split
      · intro _
        rfl
  | cons c s induction =>
      have first :
          lowerIn before (s ++ behind) c = lowerIn other (s ++ later) c ↔
          (c = 'Σ' → endsWord before (s ++ behind) =
            endsWord other (s ++ later)) := by
        unfold lowerIn
        split
        · rename_i sigma
          simp [sigma, smallSigma_inj]
        · rename_i plain
          simp [plain]
      rw [sameForms_cons, ← induction, ← first, lowerPart, lowerPart]
      constructor
      · intro same
        exact List.append_inj same (length_lowerIn c _ _ _ _)
      · rintro ⟨here, rest⟩
        rw [here, rest]

/-! ## Steady texts -/

/-- Every sigma of the text has its form from the text alone: if nothing before
it counts, a cased character stands behind it, and if a cased one stands before
it, something behind it counts. -/
def Steady (s : List Char) : Prop :=
  ∀ front back, s = front ++ 'Σ' :: back →
    (Ignorable front → nearestIsCased back = true) ∧
      (nearestIsCased front.reverse = true → ¬ Ignorable back)

theorem steady_iff :
    Steady s ↔ ∀ index ∈ List.range s.length, s[index]? = some 'Σ' →
      (Ignorable (s.take index) → nearestIsCased (s.drop (index + 1)) = true) ∧
        (nearestIsCased (s.take index).reverse = true →
          ¬ Ignorable (s.drop (index + 1))) := by
  constructor
  · intro steady index _ found
    obtain ⟨inside, sigma⟩ := List.getElem?_eq_some_iff.mp found
    apply steady
    rw [← sigma, List.getElem_cons_drop, List.take_append_drop]
  · intro each front back split
    have inside : front.length ∈ List.range s.length := by
      simp [split]
    have forms := each front.length inside (by simp [split])
    simpa [split] using forms

instance : DecidablePred Steady :=
  fun _ => decidable_of_iff _ steady_iff.symm

/-- Only a capital sigma can make a text unsteady. -/
theorem steady_of_notMem (none : 'Σ' ∉ s) : Steady s := by
  intro front back split
  exact (none (by simp [split])).elim

theorem notable_of_nearestIsCased (cased : nearestIsCased s = true) :
    ¬ Ignorable s := by
  intro ignorable
  rw [nearestIsCased_of_ignorable ignorable] at cased
  contradiction

theorem Steady.sameForms (steady : Steady s) :
    SameForms before behind other later s := by
  intro front back split
  obtain ⟨opens, closes⟩ := steady front back split
  by_cases ignorable : Ignorable front
  · -- Nothing before the sigma counts, but it has a cased character behind it
    -- wherever it stands.
    have cased := opens ignorable
    have anywhere (outer : List Char) :
        nearestIsCased (back ++ outer) = true := by
      rw [nearestIsCased_append (notable_of_nearestIsCased cased), cased]
    simp [endsWord, anywhere]
  · have notable : ¬ Ignorable front.reverse := by
      rwa [ignorable_reverse]
    rw [endsWord, endsWord, nearestIsCased_append notable,
      nearestIsCased_append notable]
    cases cased : nearestIsCased front.reverse with
    | false => rfl
    | true =>
        rw [nearestIsCased_append (closes cased),
          nearestIsCased_append (closes cased)]

/-- A text occurs in lower case where its sigmas keep the forms that they have
by themselves. -/
theorem infix_lowerChars (same : SameForms before.reverse behind [] [] s) :
    lowerChars s <:+: lowerChars (before ++ s ++ behind) := by
  refine ⟨lowerPart [] (s ++ behind) before,
    lowerPart (before ++ s).reverse [] behind, ?_⟩
  rw [lowerChars_eq, lowerChars_eq, lowerPart_append, lowerPart_append,
    ← lowerPart_eq_iff.mpr same]
  simp

/-- There are letters to put next to a text that are not at its end already. -/
theorem exists_letter (taken : Option Char) :
    ∃ c, some c ≠ taken ∧ nearestIsCased [c] = true ∧
      ∀ before behind, lowerIn before behind c = [c] := by
  have letter (c : Char) (plain : c ≠ 'Σ') (small : lowerChar c = [c])
      (before behind : List Char) :
      lowerIn before behind c = [c] := by
    rw [lowerIn, if_neg plain, small]
  by_cases same : some 'a' = taken
  · refine ⟨'b', ?_, by decide +kernel,
      letter 'b' (by decide) (by decide +kernel)⟩
    rw [← same]
    decide
  · exact ⟨'a', same, by decide +kernel,
      letter 'a' (by decide) (by decide +kernel)⟩

theorem not_infix_of_first {L M : List Char} {c : Char}
    (sameLength : L.length = M.length) (changed : L ≠ M) (nonempty : L ≠ [])
    (first : some c ≠ L.head?) : ¬ L <:+: c :: M := by
  intro occurs
  rcases List.infix_cons_iff.mp occurs with starts | inside
  · obtain ⟨d, L, rfl⟩ := List.exists_cons_of_ne_nil nonempty
    obtain ⟨rfl, -⟩ := List.cons_prefix_cons.mp starts
    exact first rfl
  · exact changed (inside.eq_of_length sameLength)

theorem not_infix_of_last {L M : List Char} {c : Char}
    (sameLength : L.length = M.length) (changed : L ≠ M) (nonempty : L ≠ [])
    (last : some c ≠ L.getLast?) : ¬ L <:+: M ++ [c] := by
  rw [← List.reverse_infix, List.reverse_concat]
  apply not_infix_of_first
  · simpa using sameLength
  · simpa using changed
  · simpa using nonempty
  · simpa using last

theorem lowerChars_ne_nil (nonempty : s ≠ []) : lowerChars s ≠ [] := by
  intro empty
  obtain ⟨c, s, rfl⟩ := List.exists_cons_of_ne_nil nonempty
  have none := congrArg List.length empty
  rw [lowerChars_eq, lowerPart, List.length_append, List.length_nil] at none
  have some := length_lowerIn_pos [] (s ++ []) c
  omega

/-- A sigma with nothing before it that counts and no cased character behind it
becomes a final one behind a letter. -/
theorem exists_of_open {front back : List Char}
    (split : s = front ++ 'Σ' :: back) (ignorable : Ignorable front)
    (uncased : nearestIsCased back = false) :
    ∃ text, s <:+: text ∧ ¬ lowerChars s <:+: lowerChars text := by
  obtain ⟨c, first, cased, keeps⟩ := exists_letter (lowerChars s).head?
  refine ⟨c :: s, (List.suffix_cons c s).isInfix, ?_⟩
  have text : lowerChars (c :: s) = c :: lowerPart [c] [] s := by
    rw [lowerChars_eq, lowerPart, keeps]
    rfl
  rw [text]
  apply not_infix_of_first
  · rw [lowerChars_eq, length_lowerPart]
  · intro same
    rw [lowerChars_eq, lowerPart_eq_iff] at same
    have forms := same front back split
    have passed : Ignorable front.reverse := ignorable_reverse.mpr ignorable
    simp [endsWord, nearestIsCased_append_of_ignorable passed,
      nearestIsCased_of_ignorable passed, cased, uncased] at forms
  · exact lowerChars_ne_nil (by simp [split])
  · exact first

/-- A final sigma with nothing behind it that counts is no final one in front of
a letter. -/
theorem exists_of_closed {front back : List Char}
    (split : s = front ++ 'Σ' :: back)
    (cased : nearestIsCased front.reverse = true) (ignorable : Ignorable back) :
    ∃ text, s <:+: text ∧ ¬ lowerChars s <:+: lowerChars text := by
  obtain ⟨c, last, letter, keeps⟩ := exists_letter (lowerChars s).getLast?
  refine ⟨s ++ [c], (List.prefix_append s [c]).isInfix, ?_⟩
  have text : lowerChars (s ++ [c]) = lowerPart [] [c] s ++ [c] := by
    rw [lowerChars_eq, lowerPart_append, lowerPart, keeps]
    rfl
  rw [text]
  apply not_infix_of_last
  · rw [lowerChars_eq, length_lowerPart]
  · intro same
    rw [lowerChars_eq, lowerPart_eq_iff] at same
    have forms := same front back split
    simp [endsWord, nearestIsCased_append_of_ignorable ignorable,
      nearestIsCased_of_ignorable ignorable, cased, letter] at forms
  · exact lowerChars_ne_nil (by simp [split])
  · exact last

/-- The texts that occur in lower case in whatever they occur in are the steady
ones. -/
theorem infix_lowerChars_iff :
    (∀ text, s <:+: text → lowerChars s <:+: lowerChars text) ↔ Steady s := by
  constructor
  · intro occurs front back split
    constructor
    · intro ignorable
      by_contra uncased
      obtain ⟨text, inside, lost⟩ :=
        exists_of_open split ignorable (by simpa using uncased)
      exact lost (occurs text inside)
    · intro cased ignorable
      obtain ⟨text, inside, lost⟩ := exists_of_closed split cased ignorable
      exact lost (occurs text inside)
  · intro steady text inside
    obtain ⟨before, behind, rfl⟩ := inside
    exact infix_lowerChars steady.sameForms

end PageFlow.Text
