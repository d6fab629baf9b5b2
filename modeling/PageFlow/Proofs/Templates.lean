import PageFlow.Proofs.Escaping
import PageFlow.Report

/-!
# Flat templates

The templates of reports have no tags inside of tags, fixed texts without
brackets and backslashes, and at most one text from outside between two tags.
The markup of such a template is cut part by part, with the one exception that
backslashes at the end of a text go to the tag behind it.
-/

namespace PageFlow.Markup

/-! ## Fixed texts -/

/-- A character that is shown, and is no bracket and no backslash. -/
def isClean (c : Char) : Bool :=
  c != '[' && c != ']' && c != '\\' && !isDropped c

/-- A text that takes no part in tags. -/
def Clean (s : List Char) : Prop :=
  s.all isClean = true

instance (s : List Char) : Decidable (Clean s) :=
  inferInstanceAs (Decidable (s.all isClean = true))

theorem clean_append {s t : List Char} :
    Clean (s ++ t) ↔ Clean s ∧ Clean t := by
  simp [Clean, List.all_append]

theorem clean_cons {c : Char} {s : List Char} :
    Clean (c :: s) ↔ (c ≠ '[' ∧ c ≠ ']' ∧ c ≠ '\\' ∧ isDropped c = false) ∧
      Clean s := by
  simp [Clean, isClean, and_assoc]

theorem Clean.not_dropped {s : List Char} (clean : Clean s) :
    ∀ c ∈ s, isDropped c = false := by
  induction s with
  | nil => simp
  | cons c s induction =>
      obtain ⟨⟨_, _, _, shown⟩, later⟩ := clean_cons.mp clean
      simpa [shown] using induction later

theorem pieces_clean_append {s : List Char} (clean : Clean s) (t : List Char) :
    pieces (s ++ t) = s.map .plain ++ pieces t := by
  induction s with
  | nil => rfl
  | cons c s induction =>
      obtain ⟨⟨opens, _, slash, _⟩, later⟩ := clean_cons.mp clean
      have plain :=
        piecesAfter_of_plain (s := s ++ t) slash (tag?_of_ne opens) 0
      rw [List.cons_append, pieces, plain]
      simpa [pieces] using induction later

theorem piecesAfter_clean_append {s : List Char} (clean : Clean s)
    (filled : s ≠ []) (slashes : Nat) (t : List Char) :
    piecesAfter slashes (s ++ t) =
      List.replicate slashes (.plain '\\') ++ (s.map .plain ++ pieces t) := by
  cases s with
  | nil => exact (filled rfl).elim
  | cons c s =>
      obtain ⟨⟨opens, _, slash, _⟩, later⟩ := clean_cons.mp clean
      have plain :=
        piecesAfter_of_plain (s := s ++ t) slash (tag?_of_ne opens) slashes
      rw [List.cons_append, plain]
      exact congrArg (_ ++ Piece.plain c :: ·) (pieces_clean_append later t)

theorem Calm.of_clean {s t : List Char} (calm : Calm t) (clean : Clean s) :
    Calm (s ++ t) := by
  have closes (s : List Char) (clean : Clean s) : closing? (s ++ t) = none := by
    induction s with
    | nil => exact calm.closes
    | cons c s induction =>
        obtain ⟨⟨_, closes, _, _⟩, later⟩ := clean_cons.mp clean
        exact closing?_cons_eq_none.mpr ⟨closes, .inr (induction later)⟩
  constructor
  · cases s with
    | nil => exact calm.opens
    | cons c s =>
        simp only [tag?, List.cons_append, closes s (clean_cons.mp clean).2]
        split <;> rfl
  · exact closes s clean

/-! ## Styles -/

/-- The name of a style: its tags are tags, and name it. -/
structure IsStyle (style : List Char) : Prop where
  opens : style.head?.any (fun c => opensTag c && c != '/') = true
  clean : style.all (fun c => isClean c && c != '=') = true
  trimmed : Text.trimChars style = style

instance (style : List Char) : Decidable (IsStyle style) :=
  decidable_of_iff
    (style.head?.any (fun c => opensTag c && c != '/') = true ∧
      style.all (fun c => isClean c && c != '=') = true ∧
        Text.trimChars style = style)
    ⟨fun ⟨opens, clean, trimmed⟩ => ⟨opens, clean, trimmed⟩,
      fun ⟨opens, clean, trimmed⟩ => ⟨opens, clean, trimmed⟩⟩

theorem closing?_of_clean {s : List Char} (clean : Clean s) (t : List Char) :
    closing? (s ++ ']' :: t) = some (s ++ [']'], t) := by
  induction s with
  | nil => rfl
  | cons c s induction =>
      obtain ⟨⟨opens, closes, _⟩, later⟩ := clean_cons.mp clean
      rw [List.cons_append, closing?, if_neg closes, if_neg opens,
        induction later]
      rfl

namespace IsStyle

variable {style : String}

theorem clean_style (named : IsStyle style.toList) : Clean style.toList := by
  apply List.all_eq_true.mpr
  intro c member
  have clean := List.all_eq_true.mp named.clean c member
  rw [Bool.and_eq_true] at clean
  exact clean.1

theorem tag?_opening (named : IsStyle style.toList) (t : List Char) :
    tag? ((Part.opening style).markup ++ t) =
      some ((Part.opening style).markup, t) := by
  have opens := named.opens
  have clean := named.clean_style
  unfold Part.markup
  cases letters : style.toList with
  | nil => simp [letters] at opens
  | cons c rest =>
      rw [letters] at opens clean
      simp only [List.head?_cons, Option.any_some, Bool.and_eq_true] at opens
      have closed := closing?_of_clean (clean_cons.mp clean).2 t
      simp [tag?, letters, opens.1, closed]

theorem tag?_closing (named : IsStyle style.toList) (t : List Char) :
    tag? ((Part.closing style).markup ++ t) =
      some ((Part.closing style).markup, t) := by
  have closed := closing?_of_clean named.clean_style t
  have slash : opensTag '/' = true := by decide
  simp only [Part.markup, tag?, List.cons_append, List.append_assoc,
    List.nil_append, slash, if_true, closed, Option.map_some]

theorem takeWhile_eq (named : IsStyle style.toList) :
    style.toList.takeWhile (fun c => decide (c ≠ '=')) = style.toList := by
  rw [List.takeWhile_eq_self_iff]
  intro c member
  have clean := List.all_eq_true.mp named.clean c member
  rw [Bool.and_eq_true, bne_iff_ne] at clean
  exact decide_eq_true clean.2

theorem opening (named : IsStyle style.toList) (place : Nat) :
    (LiveTag.mk place (Part.opening style).markup).closes? = none ∧
      (LiveTag.mk place (Part.opening style).markup).style = style.toList := by
  have name :
      (LiveTag.mk place (Part.opening style).markup).name = style.toList := by
    simp only [LiveTag.name, Part.markup, List.cons_append, List.drop_succ_cons,
      List.drop_zero, List.dropLast_concat]
    exact named.takeWhile_eq
  constructor
  · unfold LiveTag.closes?
    rw [name]
    split
    · rename_i letters
      have opens := named.opens
      simp [letters] at opens
    · rfl
  · rw [LiveTag.style, name, named.trimmed]

theorem closing (named : IsStyle style.toList) (place : Nat) :
    (LiveTag.mk place (Part.closing style).markup).closes? =
      some style.toList := by
  have name : (LiveTag.mk place (Part.closing style).markup).name =
      '/' :: style.toList := by
    have inside : ((Part.closing style).markup.drop 1).dropLast =
        '/' :: style.toList := by
      simp only [Part.markup, List.cons_append, List.drop_succ_cons,
        List.drop_zero]
      rw [← List.cons_append, List.dropLast_concat]
    rw [LiveTag.name, inside, List.takeWhile_cons_of_pos (by decide),
      named.takeWhile_eq]
  simp only [LiveTag.closes?, name, named.trimmed]

theorem pieces_opening (named : IsStyle style.toList) (t : List Char) :
    pieces ((Part.opening style).markup ++ t) =
      .tag 0 (Part.opening style).markup :: pieces t :=
  piecesAfter_of_tag (named.tag?_opening t) 0

theorem pieces_closing (named : IsStyle style.toList) (slashes : Nat)
    (t : List Char) :
    piecesAfter slashes ((Part.closing style).markup ++ t) =
      .tag slashes (Part.closing style).markup :: pieces t :=
  piecesAfter_of_tag (named.tag?_closing t) slashes

end IsStyle

/-! ## Templates -/

/-- What stands between two tags: fixed text, with at most one text from
outside. -/
inductive Inner : List Part → Prop where
  | fixed {text : String} : Clean text.toList → Inner [.fixed text]
  | user {before text : String} :
      Clean before.toList → before.toList ≠ [] →
        Inner [.fixed before, .user text]
  | between {before text after : String} :
      Clean before.toList → before.toList ≠ [] → Clean after.toList →
      after.toList ≠ [] →
      Inner [.fixed before, .user text, .fixed after]

/-- A template without tags inside of tags. -/
inductive Flat : List Part → Prop where
  | nil : Flat []
  | fixed {text : String} {rest : List Part} :
      Clean text.toList → Flat rest → Flat (.fixed text :: rest)
  | styled {style : String} {inner rest : List Part} :
      IsStyle style.toList → Inner inner → Flat rest →
        Flat (styled style inner ++ rest)

theorem Flat.append {first second : List Part} (flat : Flat first)
    (later : Flat second) : Flat (first ++ second) := by
  induction flat with
  | nil => exact later
  | fixed clean _ induction => exact .fixed clean induction
  | styled named inner _ induction =>
      rw [List.append_assoc]
      exact .styled named inner induction

theorem flat_styled {style : String} {inner : List Part}
    (named : IsStyle style.toList) (within : Inner inner) :
    Flat (styled style inner) := by
  have whole := Flat.styled named within .nil
  rwa [List.append_nil] at whole

theorem flat_joinLines {lines : List (List Part)}
    (flat : ∀ line ∈ lines, Flat line) : Flat (joinLines lines) := by
  fun_induction joinLines lines with
  | case1 => exact .nil
  | case2 line => exact flat line (by simp)
  | case3 line rest more induction =>
      apply Flat.append (flat line (by simp))
      exact .fixed (by decide)
        (induction fun later member => flat later (by simp [member]))

/-- The pieces of a template, part by part. -/
def cut : List Part → List Piece
  | [] => []
  | .opening style :: rest => .tag 0 (Part.opening style).markup :: cut rest
  | .closing style :: rest => .tag 0 (Part.closing style).markup :: cut rest
  | .fixed text :: rest => text.toList.map .plain ++ cut rest
  | .user text :: .closing style :: rest =>
    (pieces (stem text.toList)).map Piece.armored ++
      .tag (guarded (slashesAtEnd text.toList))
        (Part.closing style).markup :: cut rest
  | .user text :: rest =>
    (pieces (stem text.toList)).map Piece.armored ++
      List.replicate (guarded (slashesAtEnd text.toList))
        (.plain '\\') ++ cut rest

theorem styled_append (style : String) (inner rest : List Part) :
    styled style inner ++ rest =
      .opening style :: (inner ++ .closing style :: rest) := by
  simp [styled]

theorem Part.fixed_markup (text : String) :
    (Part.fixed text).markup = text.toList :=
  rfl

theorem Part.user_markup (text : String) :
    (Part.user text).markup = escape text.toList :=
  rfl

theorem calm_closing (style : String) (t : List Char) :
    Calm ((Part.closing style).markup ++ t) :=
  calm_bracket _

theorem pieces_flat {parts : List Part} (flat : Flat parts) :
    pieces (parts.flatMap Part.markup) = cut parts := by
  induction flat with
  | nil => simp [pieces, cut]
  | fixed clean _ induction =>
      rw [List.flatMap_cons, Part.markup, pieces_clean_append clean, induction,
        cut]
  | @styled style _ rest named inner _ induction =>
      have behind (slashes : Nat) :
          piecesAfter slashes
              ((Part.closing style).markup ++ rest.flatMap Part.markup) =
            .tag slashes (Part.closing style).markup :: cut rest := by
        rw [named.pieces_closing, induction]
      have bare := behind 0
      rw [← pieces] at bare
      -- What stands behind a text from outside is a bracket or clean, so the
      -- text is cut on its own.
      have calm :
          Calm ((Part.closing style).markup ++ rest.flatMap Part.markup) :=
        calm_closing _ _
      rw [styled_append, List.flatMap_cons, named.pieces_opening, cut]
      cases inner with
      | fixed clean =>
          simp only [List.flatMap_cons, Part.fixed_markup, List.cons_append,
            List.nil_append, cut]
          rw [pieces_clean_append clean, bare]
      | @user before text clean _ =>
          simp only [List.flatMap_cons, Part.fixed_markup, Part.user_markup,
            List.cons_append, List.nil_append, cut]
          rw [pieces_clean_append clean, pieces_escape_append _ calm, behind]
      | @between before text after clean _ later filled =>
          simp only [List.flatMap_cons, Part.fixed_markup, Part.user_markup,
            List.cons_append, List.nil_append, List.append_assoc, cut]
          rw [pieces_clean_append clean,
            pieces_escape_append _ (calm.of_clean later),
            piecesAfter_clean_append later filled, bare]

end PageFlow.Markup
