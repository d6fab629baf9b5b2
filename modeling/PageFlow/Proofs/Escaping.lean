import Mathlib.Data.List.DropRight
import PageFlow.Markup.Tag

/-!
# Escaped texts

Cutting an escaped text gives the pieces of the text itself, with every tag
turned into one that prints as it is. What stands behind the text does not
disturb this, as long as it closes no bracket, except that backslashes at the
end of the text count as those of a tag right behind it.
-/

namespace PageFlow.Markup

/-! ## Cutting -/

theorem piecesAfter_of_tag {s body after : List Char}
    (found : tag? s = some (body, after)) (slashes : Nat) :
    piecesAfter slashes s = .tag slashes body :: piecesAfter 0 after := by
  rw [piecesAfter]
  split
  · rename_i other rest again
    rw [found] at again
    cases again
    rfl
  · rename_i absent
    rw [found] at absent
    cases absent

@[simp] theorem piecesAfter_nil (slashes : Nat) :
    piecesAfter slashes [] = List.replicate slashes (.plain '\\') := by
  rw [piecesAfter]
  rfl

@[simp] theorem piecesAfter_slash (slashes : Nat) (s : List Char) :
    piecesAfter slashes ('\\' :: s) = piecesAfter (slashes + 1) s := by
  rw [piecesAfter]
  rfl

theorem piecesAfter_of_plain {c : Char} {s : List Char} (other : c ≠ '\\')
    (absent : tag? (c :: s) = none) (slashes : Nat) :
    piecesAfter slashes (c :: s) =
      List.replicate slashes (.plain '\\') ++ .plain c :: piecesAfter 0 s := by
  rw [piecesAfter]
  split
  · rename_i found
    rw [absent] at found
    cases found
  · exact if_neg other

theorem tag?_of_ne {c : Char} {s : List Char} (other : c ≠ '[') :
    tag? (c :: s) = none := by
  unfold tag?
  split
  · rename_i same
    cases same
    exact (other rfl).elim
  · rfl

@[simp] theorem piecesAfter_replicate (slashes more : Nat) (s : List Char) :
    piecesAfter slashes (List.replicate more '\\' ++ s) =
      piecesAfter (slashes + more) s := by
  induction more generalizing slashes with
  | zero => rfl
  | succ more induction =>
      rw [List.replicate_succ, List.cons_append, piecesAfter_slash, induction,
        Nat.add_assoc, Nat.add_comm 1]

/-! ## Texts behind a text -/

/-- A text that makes no tag of what stands before it. -/
structure Calm (s : List Char) : Prop where
  opens : tag? ('[' :: s) = none
  closes : closing? s = none

theorem closing?_cons_eq_none {c : Char} {s : List Char} :
    closing? (c :: s) = none ↔ c ≠ ']' ∧ (c = '[' ∨ closing? s = none) := by
  by_cases closes : c = ']'
  · simp [closing?, closes]
  · by_cases opens : c = '[' <;> simp [closing?, closes, opens]

theorem closing?_replicate (slashes : Nat) (s : List Char) :
    closing? (List.replicate slashes '\\' ++ s) = none ↔ closing? s = none := by
  induction slashes with
  | zero => rfl
  | succ slashes induction =>
      simp [List.replicate_succ, closing?_cons_eq_none, induction]

theorem Calm.replicate {s : List Char} (calm : Calm s) (slashes : Nat) :
    Calm (List.replicate slashes '\\' ++ s) := by
  constructor
  · cases slashes with
    | zero => exact calm.opens
    | succ slashes => rfl
  · exact (closing?_replicate slashes s).mpr calm.closes

theorem calm_nil : Calm [] :=
  ⟨rfl, rfl⟩

theorem calm_bracket (s : List Char) : Calm ('[' :: s) :=
  ⟨rfl, rfl⟩

theorem closing?_append {s t body after : List Char}
    (closed : closing? s = some (body, after)) :
    closing? (s ++ t) = some (body, after ++ t) := by
  induction s generalizing body after with
  | nil => cases closed
  | cons c s induction =>
      simp only [closing?, List.cons_append] at closed ⊢
      split
      · rw [if_pos ‹_›] at closed
        cases closed
        rfl
      · rw [if_neg ‹_›] at closed
        split
        · rw [if_pos ‹_›] at closed
          cases closed
        · rw [if_neg ‹_›] at closed
          obtain ⟨⟨inner, rest⟩, found, same⟩ :=
            Option.map_eq_some_iff.mp closed
          cases same
          rw [induction found]
          rfl

theorem closing?_body {s body after : List Char}
    (closed : closing? s = some (body, after)) :
    closing? body = some (body, []) := by
  induction s generalizing body after with
  | nil => cases closed
  | cons c s induction =>
      rw [closing?] at closed
      split at closed
      · rename_i closes
        cases closed
        rw [closing?, if_pos closes]
      · rename_i other
        split at closed
        · cases closed
        · rename_i inside
          obtain ⟨⟨inner, rest⟩, found, same⟩ :=
            Option.map_eq_some_iff.mp closed
          cases same
          rw [closing?, if_neg other, if_neg inside, induction found]
          rfl

theorem closing?_append_of_none {s t : List Char} (unclosed : closing? s = none)
    (calm : closing? t = none) : closing? (s ++ t) = none := by
  induction s with
  | nil => exact calm
  | cons c s induction =>
      rw [closing?_cons_eq_none] at unclosed
      rw [List.cons_append, closing?_cons_eq_none]
      exact ⟨unclosed.1, unclosed.2.imp_right induction⟩

theorem tag?_append {s t body after : List Char}
    (found : tag? s = some (body, after)) :
    tag? (s ++ t) = some (body, after ++ t) := by
  unfold tag? at found
  split at found
  · rename_i c rest
    by_cases opens : opensTag c
    · rw [if_pos opens] at found
      obtain ⟨⟨inner, behind⟩, closed, same⟩ := Option.map_eq_some_iff.mp found
      cases same
      simp only [List.cons_append, tag?, opens, if_true, closing?_append closed,
        Option.map_some]
    · rw [if_neg opens] at found
      cases found
  · cases found

theorem tag?_body {s body after : List Char}
    (found : tag? s = some (body, after)) :
    tag? body = some (body, []) := by
  unfold tag? at found
  split at found
  · rename_i c rest
    by_cases opens : opensTag c
    · rw [if_pos opens] at found
      obtain ⟨⟨inner, behind⟩, closed, same⟩ := Option.map_eq_some_iff.mp found
      cases same
      simp only [tag?, opens, if_true, closing?_body closed, Option.map_some]
    · rw [if_neg opens] at found
      cases found
  · cases found

theorem tag?_append_of_none {c : Char} {s t : List Char}
    (absent : tag? (c :: s) = none) (calm : Calm t) :
    tag? (c :: s ++ t) = none := by
  by_cases bracket : c = '['
  · subst bracket
    cases s with
    | nil => exact calm.opens
    | cons d s =>
        simp only [tag?, List.cons_append] at absent ⊢
        split
        · rw [if_pos ‹_›] at absent
          rw [closing?_append_of_none (Option.map_eq_none_iff.mp absent)
            calm.closes]
          rfl
        · rfl
  · exact tag?_of_ne bracket

/-- The last character is no backslash. -/
def EndsPlain (s : List Char) : Prop :=
  s.getLast? ≠ some '\\'

theorem EndsPlain.of_append {s t : List Char} (ends : EndsPlain (s ++ t))
    (filled : t ≠ []) : EndsPlain t := by
  unfold EndsPlain at ends ⊢
  rwa [List.getLast?_append_of_ne_nil s filled] at ends

/-- What stands behind a text is cut on its own, unless the text ends in
backslashes. -/
theorem piecesAfter_append {slashes : Nat} {s t : List Char} (calm : Calm t)
    (ends : EndsPlain s) (whole : s = [] → slashes = 0) :
    piecesAfter slashes (s ++ t) = piecesAfter slashes s ++
      piecesAfter 0 t := by
  -- Backslashes held back at the end of `s` would count as those of a tag at
  -- the front of `t`; `whole` and `ends` say that none are.
  fun_induction piecesAfter slashes s with
  | case1 slashes s body after found induction =>
      rw [piecesAfter_of_tag (tag?_append found)]
      rw [tag_eq_append found] at ends
      by_cases last : after = []
      · subst last
        simp
      · rw [induction (ends.of_append last) fun empty => (last empty).elim]
        rfl
  | case2 slashes absent => simp [whole rfl]
  | case3 slashes rest absent induction =>
      have more : rest ≠ [] := by
        rintro rfl
        exact ends rfl
      have later : EndsPlain rest := EndsPlain.of_append (s := ['\\']) ends more
      rw [List.cons_append, piecesAfter_slash,
        induction later fun empty => (more empty).elim]
  | case4 slashes c rest absent other induction =>
      have later : EndsPlain rest := by
        by_cases empty : rest = []
        · subst empty
          exact nofun
        · exact EndsPlain.of_append (s := [c]) ends empty
      have plain : tag? (c :: (rest ++ t)) = none :=
        tag?_append_of_none absent calm
      rw [List.cons_append, piecesAfter_of_plain other plain,
        induction later fun _ => rfl, List.append_assoc, List.cons_append]

/-! ## Escaping -/

/-- The piece that prints as it is. -/
def Piece.armored : Piece → Piece
  | .plain c => .plain c
  | .tag slashes body => .tag (2 * slashes + 1) body

theorem Piece.source_armored (piece : Piece) :
    piece.armored.source = piece.escaped := by
  cases piece with
  | plain c => rfl
  | tag slashes body => rfl

theorem flatMap_escaped (slashes : Nat) :
    (List.replicate slashes (Piece.plain '\\')).flatMap Piece.escaped =
      List.replicate slashes '\\' := by
  simp [List.flatMap_replicate, Piece.escaped]

theorem eq_cons_of_tag {s body after : List Char}
    (found : tag? s = some (body, after)) :
    ∃ inner, body = '[' :: inner := by
  unfold tag? at found
  split at found
  · split at found
    · obtain ⟨_, _, same⟩ := Option.map_eq_some_iff.mp found
      cases same
      exact ⟨_, rfl⟩
    · cases found
  · cases found

/-- A bracket that was not closed is not closed by escaping what follows it. -/
theorem closing?_escaped {slashes : Nat} {s : List Char}
    (unclosed : closing? (List.replicate slashes '\\' ++ s) = none) :
    closing? ((piecesAfter slashes s).flatMap Piece.escaped) = none := by
  fun_induction piecesAfter slashes s with
  | case1 slashes s body after found induction =>
      obtain ⟨inner, rfl⟩ := eq_cons_of_tag found
      rw [List.flatMap_cons, Piece.escaped, List.append_assoc,
        closing?_replicate]
      exact closing?_cons_eq_none.mpr ⟨by decide, .inl rfl⟩
  | case2 slashes absent => simpa [flatMap_escaped] using unclosed
  | case3 slashes rest absent induction =>
      apply induction
      rwa [List.replicate_succ', List.append_assoc]
  | case4 slashes c rest absent other induction =>
      rw [closing?_replicate, closing?_cons_eq_none] at unclosed
      rw [List.flatMap_append, flatMap_escaped, closing?_replicate,
        List.flatMap_cons, Piece.escaped, List.singleton_append,
        closing?_cons_eq_none]
      exact ⟨unclosed.1, unclosed.2.imp_right induction⟩

theorem exists_escaped (slashes : Nat) (s : List Char) :
    ∃ rest, (piecesAfter slashes s).flatMap Piece.escaped =
      List.replicate slashes '\\' ++ rest := by
  fun_induction piecesAfter slashes s with
  | case1 slashes s body after found induction =>
      refine ⟨List.replicate (slashes + 1) '\\' ++
        (body ++ (piecesAfter 0 after).flatMap Piece.escaped), ?_⟩
      rw [← List.append_assoc, List.replicate_append_replicate,
        List.flatMap_cons, Piece.escaped, List.append_assoc, Nat.two_mul,
        Nat.add_assoc]
  | case2 slashes absent => exact ⟨[], by simp [flatMap_escaped]⟩
  | case3 slashes rest absent induction =>
      obtain ⟨later, same⟩ := induction
      refine ⟨'\\' :: later, ?_⟩
      rw [same, List.replicate_succ', List.append_assoc, List.singleton_append]
  | case4 slashes c rest absent other induction =>
      refine ⟨c :: (piecesAfter 0 rest).flatMap Piece.escaped, ?_⟩
      rw [List.flatMap_append, flatMap_escaped]
      rfl

/-- A character that begins no tag begins none when what follows it is
escaped. -/
theorem tag?_escaped {c : Char} {s : List Char}
    (absent : tag? (c :: s) = none) :
    tag? (c :: (piecesAfter 0 s).flatMap Piece.escaped) = none := by
  -- Only a bracket could begin one. Behind it stands a backslash now, which
  -- begins none, or the character that was there, and then nothing is closed
  -- that was not closed before.
  by_cases bracket : c = '['
  · subst bracket
    cases s with
    | nil => simp [tag?]
    | cons d s =>
        by_cases slash : d = '\\'
        · subst slash
          obtain ⟨rest, same⟩ := exists_escaped 1 s
          rw [piecesAfter_slash, same]
          rfl
        · cases found : tag? (d :: s) with
          | some cut =>
              rw [piecesAfter_of_tag found]
              rfl
          | none =>
              rw [piecesAfter_of_plain slash found]
              simp only [List.replicate_zero, List.nil_append,
                List.flatMap_cons, Piece.escaped, List.singleton_append,
                tag?] at absent ⊢
              split
              · rw [if_pos ‹_›] at absent
                rw [closing?_escaped (Option.map_eq_none_iff.mp absent)]
                rfl
              · rfl
  · exact tag?_of_ne bracket

/-- Cutting an escaped text gives the pieces of the text, with every tag to be
printed. -/
theorem pieces_escaped (slashes : Nat) (s : List Char) :
    pieces ((piecesAfter slashes s).flatMap Piece.escaped) =
      (piecesAfter slashes s).map Piece.armored := by
  unfold pieces
  fun_induction piecesAfter slashes s with
  | case1 slashes s body after found induction =>
      have again : tag? (body ++ (piecesAfter 0 after).flatMap Piece.escaped) =
          some (body, (piecesAfter 0 after).flatMap Piece.escaped) := by
        simpa using tag?_append
          (t := (piecesAfter 0 after).flatMap Piece.escaped) (tag?_body found)
      rw [List.flatMap_cons, Piece.escaped, List.append_assoc,
        piecesAfter_replicate, piecesAfter_of_tag again, induction,
        Nat.zero_add]
      rfl
  | case2 slashes absent =>
      rw [flatMap_escaped, ← List.append_nil (List.replicate slashes '\\'),
        piecesAfter_replicate, piecesAfter_nil]
      simp [Piece.armored]
  | case3 slashes rest absent induction => exact induction
  | case4 slashes c rest absent other induction =>
      rw [List.flatMap_append, flatMap_escaped, piecesAfter_replicate,
        List.flatMap_cons, Piece.escaped, List.singleton_append,
        piecesAfter_of_plain other (tag?_escaped absent), induction]
      simp [Piece.armored]

/-! ## Backslashes at the end -/

/-- The number of backslashes at the end of a text. -/
def slashesAtEnd (s : List Char) : Nat :=
  (s.rtakeWhile (· = '\\')).length

/-- A text without the backslashes at its end. -/
def stem (s : List Char) : List Char :=
  s.rdropWhile (· = '\\')

theorem stem_append_replicate (s : List Char) :
    stem s ++ List.replicate (slashesAtEnd s) '\\' = s := by
  have slashes :
      s.rtakeWhile (· = '\\') = List.replicate (slashesAtEnd s) '\\' := by
    rw [List.eq_replicate_iff]
    refine ⟨rfl, fun c member => ?_⟩
    simpa using List.mem_rtakeWhile_imp member
  rw [← slashes, stem, List.rdropWhile_append_rtakeWhile]

theorem endsPlain_stem (s : List Char) : EndsPlain (stem s) := by
  intro last
  have filled : stem s ≠ [] := by
    intro empty
    rw [empty] at last
    cases last
  have other :=
    List.rdropWhile_last_not (fun c : Char => decide (c = '\\')) s filled
  rw [List.getLast?_eq_some_getLast filled, Option.some.injEq] at last
  exact other (decide_eq_true last)

theorem getLast?_escaped (slashes : Nat) (s : List Char) :
    ((piecesAfter slashes s).flatMap Piece.escaped).getLast? =
      (List.replicate slashes '\\' ++ s).getLast? := by
  fun_induction piecesAfter slashes s with
  | case1 slashes s body after found induction =>
      obtain ⟨inner, rfl⟩ := eq_cons_of_tag found
      have last :
          ('[' :: inner).getLast? = some (('[' :: inner).getLast (by simp)) :=
        List.getLast?_eq_some_getLast _
      rw [List.replicate_zero, List.nil_append] at induction
      simp only [tag_eq_append found, List.flatMap_cons, Piece.escaped,
        List.getLast?_append, induction, last, Option.or_assoc, Option.some_or]
  | case2 slashes absent => simp [flatMap_escaped]
  | case3 slashes rest absent induction =>
      rw [induction, List.replicate_succ', List.append_assoc,
        List.singleton_append]
  | case4 slashes c rest absent other induction =>
      simp [Piece.escaped, induction, List.getLast?_cons]

theorem endsPlain_escaped (s : List Char) :
    EndsPlain ((pieces (stem s)).flatMap Piece.escaped) := by
  have last := getLast?_escaped 0 (stem s)
  intro ends
  rw [pieces, last] at ends
  exact endsPlain_stem s ends

/-- The backslashes at the end of a text are pieces of their own. -/
theorem pieces_eq (s : List Char) :
    pieces s = pieces (stem s) ++ List.replicate (slashesAtEnd s)
      (.plain '\\') := by
  have calm : Calm (List.replicate (slashesAtEnd s) '\\' ++ []) :=
    calm_nil.replicate _
  have behind := piecesAfter_replicate 0 (slashesAtEnd s) []
  rw [List.append_nil] at calm behind
  calc
    pieces s = pieces (stem s ++ List.replicate (slashesAtEnd s) '\\') := by
      rw [stem_append_replicate]
    _ = pieces (stem s) ++ piecesAfter 0
      (List.replicate (slashesAtEnd s) '\\') :=
      piecesAfter_append calm (endsPlain_stem s) fun _ => rfl
    _ = pieces (stem s) ++ List.replicate (slashesAtEnd s) (.plain '\\') := by
      rw [behind, piecesAfter_nil, Nat.zero_add]

/-- How many backslashes stand at the end of an escaped text: a single one is
doubled. -/
def guarded (slashes : Nat) : Nat :=
  if slashes = 1 then 2 else slashes

theorem guardEnd_append {s : List Char} (ends : EndsPlain s) (slashes : Nat) :
    guardEnd (s ++ List.replicate slashes '\\') =
      s ++ List.replicate (guarded slashes) '\\' := by
  have front : ∀ rest, s.reverse ≠ '\\' :: rest := by
    intro rest reversed
    apply ends
    rw [← List.head?_reverse, reversed]
    rfl
  rw [guardEnd, List.reverse_append, List.reverse_replicate]
  match slashes with
  | 0 =>
      split
      · exact (front _ ‹_›).elim
      · exact (front _ ‹_›).elim
      · rfl
  | 1 =>
      split
      · rename_i rest reversed
        exact (front rest (List.cons.inj reversed).2).elim
      · rw [List.append_assoc]
        rfl
      · rename_i other
        exact (other _ rfl).elim
  | slashes + 2 => rfl

theorem escape_eq (s : List Char) :
    escape s = (pieces (stem s)).flatMap Piece.escaped ++
      List.replicate (guarded (slashesAtEnd s)) '\\' := by
  rw [escape, pieces_eq, List.flatMap_append, flatMap_escaped,
    guardEnd_append (endsPlain_escaped s)]

/-- What stands behind an escaped text is cut together with the backslashes at
its end. -/
theorem pieces_escape_append (s : List Char) {t : List Char} (calm : Calm t) :
    pieces (escape s ++ t) =
      (pieces (stem s)).map Piece.armored ++
        piecesAfter (guarded (slashesAtEnd s)) t := by
  have cut : piecesAfter 0 ((pieces (stem s)).flatMap Piece.escaped) =
      (pieces (stem s)).map Piece.armored := pieces_escaped 0 (stem s)
  rw [escape_eq, List.append_assoc, pieces,
    piecesAfter_append (calm.replicate _) (endsPlain_escaped s) fun _ => rfl,
    cut, piecesAfter_replicate, Nat.zero_add]

end PageFlow.Markup
