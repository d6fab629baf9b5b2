import Mathlib.Data.List.Count

/-!
# Texts cut at a character

What the parts of a text are that is cut at every occurrence of a character.
Behind one another, with the character between any two of them, they are the
whole text.
-/

namespace PageFlow.Text

variable {mark : Char}

theorem splitOn_cons (c : Char) (s : List Char) :
    (c :: s).splitOn mark =
      if c = mark then [] :: s.splitOn mark
      else (s.splitOn mark).modifyHead (c :: ·) := by
  rw [List.splitOn_cons_eq_if_modifyHead]
  simp

theorem notMem_of_mem_splitOn {part s : List Char}
    (member : part ∈ s.splitOn mark) : mark ∉ part := by
  induction s generalizing part with
  | nil =>
      rw [List.splitOn_nil, List.mem_singleton] at member
      simp [member]
  | cons c s induction =>
      rw [splitOn_cons] at member
      split at member
      · rcases List.mem_cons.mp member with rfl | later
        · exact List.not_mem_nil
        · exact induction later
      · rename_i other
        cases cut : s.splitOn mark with
        | nil => exact absurd cut (List.splitOn_ne_nil mark s)
        | cons first parts =>
            rw [cut, List.modifyHead_cons] at member
            rcases List.mem_cons.mp member with rfl | later
            · have free := induction (cut ▸ List.mem_cons_self)
              simp [free, Ne.symm other]
            · exact induction (cut ▸ List.mem_cons_of_mem _ later)

theorem length_splitOn (s : List Char) :
    (s.splitOn mark).length = s.count mark + 1 := by
  induction s with
  | nil => rw [List.splitOn_nil]; rfl
  | cons c s induction =>
      rw [splitOn_cons]
      split
      · rename_i same
        rw [List.length_cons, induction, same, List.count_cons_self]
      · rename_i other
        rw [List.length_modifyHead, induction, List.count_cons_of_ne other]

/-- A character of parts put together stands in one of them, or between two. -/
theorem mem_intercalate_iff {parts : List (List Char)} {c : Char} :
    c ∈ [mark].intercalate parts ↔
      (∃ part ∈ parts, c ∈ part) ∨ c = mark ∧ 1 < parts.length := by
  induction parts with
  | nil => simp
  | cons part parts induction =>
      cases parts with
      | nil => simp
      | cons next parts =>
          rw [List.intercalate_cons_cons, List.append_assoc, List.mem_append,
            List.mem_append, induction]
          grind

theorem mem_of_mem_splitOn {part s : List Char} {c : Char}
    (member : part ∈ s.splitOn mark) (inside : c ∈ part) : c ∈ s := by
  have there : c ∈ [mark].intercalate (s.splitOn mark) :=
    mem_intercalate_iff.mpr (.inl ⟨part, member, inside⟩)
  rwa [List.intercalate_splitOn] at there

end PageFlow.Text
