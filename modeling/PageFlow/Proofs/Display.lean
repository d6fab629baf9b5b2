import PageFlow.Proofs.Notices

/-!
# What is seen of texts

A text from outside is not always shown as it is. A backslash in front of a
bracket that begins no tag is lost. Backslashes at the end are halved by a
closing tag behind them, which is itself shown when their number is odd; and a
single one is shown twice where fixed text follows. Everything else is shown
character by character.
-/

namespace PageFlow

namespace Markup

/-! ## Escaped texts -/

/-- What is left of an escaped text: a backslash in front of a bracket that
begins no tag is lost. -/
def unescaped : List Char → List Char
  | [] => []
  | c :: rest =>
    if c = '\\' ∧ rest.head? = some '[' ∧ tag? rest = none then unescaped rest
    else c :: unescaped rest

theorem unescaped_cons {c : Char} (other : c ≠ '\\') (s : List Char) :
    unescaped (c :: s) = c :: unescaped s := by
  rw [unescaped, if_neg (by simp [other])]

theorem unescaped_replicate (slashes : Nat) (s : List Char) :
    unescaped (List.replicate (slashes + 1) '\\' ++ s) =
      List.replicate slashes '\\' ++ unescaped ('\\' :: s) := by
  induction slashes with
  | zero => rfl
  | succ slashes induction =>
      have kept (t : List Char) :
          unescaped ('\\' :: '\\' :: t) = '\\' :: unescaped ('\\' :: t) := by
        rw [unescaped, if_neg (by simp)]
      rw [List.replicate_succ, List.replicate_succ, List.cons_append,
        List.cons_append, kept, ← List.cons_append, ← List.replicate_succ,
        induction, List.replicate_succ, List.cons_append]

theorem unescaped_of_closed {s body after : List Char}
    (closed : closing? s = some (body, after)) :
    unescaped s = body ++ unescaped after := by
  induction s generalizing body with
  | nil => cases closed
  | cons c s induction =>
      rw [closing?] at closed
      split at closed
      · rename_i bracket
        cases closed
        exact unescaped_cons (by simp [bracket]) _
      · split at closed
        · cases closed
        · obtain ⟨⟨inner, behind⟩, found, same⟩ :=
            Option.map_eq_some_iff.mp closed
          cases same
          have inside : s.head? ≠ some '[' := by
            intro bracket
            obtain ⟨rest, rfl⟩ := List.head?_eq_some_iff.mp bracket
            cases found
          rw [unescaped, if_neg (by simp [inside]), induction found,
            List.cons_append]

theorem unescaped_of_tag {s body after : List Char}
    (found : tag? s = some (body, after)) :
    unescaped s = body ++ unescaped after := by
  unfold tag? at found
  split at found
  · rename_i c rest
    split at found
    · rename_i opens
      obtain ⟨⟨inner, behind⟩, closed, same⟩ := Option.map_eq_some_iff.mp found
      cases same
      have other : c ≠ '\\' := by
        rintro rfl
        cases opens
      rw [unescaped_cons (by decide), unescaped_cons other,
        unescaped_of_closed closed]
      rfl
    · cases found
  · cases found

theorem printed_slash (rest : List Piece) :
    printed (.plain '\\' :: rest) =
      if rest.head? = some (.plain '[') then printed rest
        else '\\' :: printed rest := by
  simp [printed]

theorem printed_replicate (slashes : Nat) (rest : List Piece) :
    printed (List.replicate (slashes + 1) (.plain '\\') ++ rest) =
      List.replicate slashes '\\' ++ printed (.plain '\\' :: rest) := by
  induction slashes with
  | zero => rfl
  | succ slashes induction =>
      rw [List.replicate_succ, List.replicate_succ, List.cons_append,
        List.cons_append, printed_slash, if_neg (by simp), ← List.cons_append,
        ← List.replicate_succ, induction, List.replicate_succ, List.cons_append]

theorem printed_plain {c : Char} (other : c ≠ '\\') (rest : List Piece) :
    printed (.plain c :: rest) = c :: printed rest := by
  rw [printed, if_neg (by simp [other])]

theorem printed_armored (slashes : Nat) (s : List Char) :
    printed ((piecesAfter slashes s).map Piece.armored) =
      unescaped (List.replicate slashes '\\' ++ s) := by
  fun_induction piecesAfter slashes s with
  | case1 slashes s body after found induction =>
      have half : (2 * slashes + 1) / 2 = slashes := by omega
      have odd : (2 * slashes + 1) % 2 = 1 := by omega
      have kept : unescaped (List.replicate slashes '\\' ++ s) =
          List.replicate slashes '\\' ++ (body ++ unescaped after) := by
        cases slashes with
        | zero => exact unescaped_of_tag found
        | succ slashes =>
            rw [unescaped_replicate, unescaped, if_neg (by simp [found]),
              unescaped_of_tag found, List.replicate_succ', List.append_assoc,
              List.singleton_append]
      rw [List.map_cons, Piece.armored, printed, half, if_pos odd, induction,
        kept, List.append_assoc]
      rfl
  | case2 slashes absent =>
      rw [List.map_replicate, Piece.armored,
        ← List.append_nil (List.replicate slashes (Piece.plain _))]
      cases slashes with
      | zero => rfl
      | succ slashes =>
          rw [printed_replicate, unescaped_replicate]
          rfl
  | case3 slashes rest absent induction =>
      rw [induction, List.replicate_succ', List.append_assoc,
        List.singleton_append]
  | case4 slashes c rest absent other induction =>
      rw [List.map_append, List.map_replicate, List.map_cons, Piece.armored,
        Piece.armored]
      cases slashes with
      | zero =>
          rw [List.replicate_zero, List.replicate_zero, List.nil_append,
            List.nil_append, printed_plain other, unescaped_cons other,
            induction]
          rfl
      | succ slashes =>
          rw [printed_replicate, unescaped_replicate, printed_slash,
            printed_plain other, induction, unescaped, unescaped_cons other]
          simp [absent]

/-! ## Neighbours -/

/-- What is printed of two rows of pieces, unless the second begins with a
bracket. -/
theorem printed_append {second : List Piece}
    (apart : second.head? ≠ some (.plain '[')) (first : List Piece) :
    printed (first ++ second) = printed first ++ printed second := by
  induction first with
  | nil => rfl
  | cons piece first induction =>
      cases piece with
      | tag slashes body =>
          simp only [List.cons_append, printed, induction, List.append_assoc]
      | plain c =>
          have next : (first ++ second).head? = some (.plain '[') ↔
              first.head? = some (.plain '[') := by
            cases first with
            | nil => simp [apart]
            | cons other first => rfl
          simp only [List.cons_append, printed, next, induction]
          split <;> rfl

theorem printed_slashes {rest : List Piece}
    (apart : rest.head? ≠ some (.plain '[')) (slashes : Nat) :
    printed (List.replicate slashes (.plain '\\') ++ rest) =
      List.replicate slashes '\\' ++ printed rest := by
  cases slashes with
  | zero => rfl
  | succ slashes =>
      rw [printed_replicate, printed_slash, if_neg apart, List.replicate_succ',
        List.append_assoc]
      rfl

theorem printed_clean {s : List Char} (clean : Clean s) (rest : List Piece) :
    printed (s.map .plain ++ rest) = s ++ printed rest := by
  induction s with
  | nil => rfl
  | cons c s induction =>
      obtain ⟨⟨_, _, slash, _⟩, later⟩ := clean_cons.mp clean
      rw [List.map_cons, List.cons_append, printed_plain slash, induction later,
        List.cons_append]

/-! ## Templates -/

/-- What is seen of the backslashes at the end of a text in front of a closing
tag. -/
def seenEnd (style : String) (slashes : Nat) : List Char :=
  List.replicate (guarded slashes / 2) '\\' ++
    if guarded slashes % 2 = 1 then (Part.closing style).markup else []

/-- What is seen of a template. -/
def seen : List Part → List Char
  | [] => []
  | .opening _ :: rest | .closing _ :: rest => seen rest
  | .fixed text :: rest => text.toList ++ seen rest
  | .user text :: .closing style :: rest =>
    unescaped (stem text.toList) ++ seenEnd style (slashesAtEnd text.toList) ++
      seen rest
  | .user text :: rest =>
    unescaped (stem text.toList) ++
      List.replicate (guarded (slashesAtEnd text.toList)) '\\' ++ seen rest

theorem printed_cut {parts : List Part} (flat : Flat parts) :
    printed (cut parts) = seen parts := by
  induction flat with
  | nil => rfl
  | fixed clean _ induction => rw [cut, printed_clean clean, induction, seen]
  | @styled style inner rest named within _ induction =>
      rw [styled_append, cut, seen, printed]
      have ended (slashes : Nat) :
          printed (.tag slashes (Part.closing style).markup :: cut rest) =
          List.replicate (slashes / 2) '\\' ++
            (if slashes % 2 = 1 then (Part.closing style).markup else []) ++
              seen rest := by
        rw [printed, induction]
      have stemmed (text : String) {second : List Piece}
          (apart : second.head? ≠ some (.plain '[')) :
          printed ((pieces (stem text.toList)).map Piece.armored ++ second) =
            unescaped (stem text.toList) ++ printed second := by
        rw [printed_append apart]
        exact congrArg (· ++ printed second)
          (printed_armored 0 (stem text.toList))
      cases within with
      | fixed clean =>
          simp only [List.cons_append, List.nil_append, cut, seen,
            printed_clean clean, ended]
          rfl
      | user clean _ =>
          simp only [List.cons_append, List.nil_append, cut, seen,
            printed_clean clean]
          rw [stemmed _ (by simp), ended, seenEnd]
          simp
      | @between before text after clean _ later filled =>
          obtain ⟨c, more, letters⟩ := List.exists_cons_of_ne_nil filled
          have bracket : c ≠ '[' := by
            rw [letters] at later
            exact (clean_cons.mp later).1.1
          have behind : printed (cut (.fixed after :: .closing style :: rest)) =
              after.toList ++ seen rest := by
            rw [cut, printed_clean later, cut, ended]
            rfl
          have apart : (cut (.fixed after :: .closing style :: rest)).head? ≠
              some (.plain '[') := by
            simpa [cut, letters] using bracket
          simp only [List.cons_append, List.nil_append, cut, seen,
            printed_clean clean, List.append_assoc] at apart behind ⊢
          rw [stemmed, printed_slashes apart, behind]
          · simp
          · cases guarded (slashesAtEnd text.toList) with
            | zero => exact apart
            | succ slashes => simp [List.replicate_succ]

/-! ## Dropped controls -/

/-- A text without the controls that are never shown. -/
def Displayable (s : List Char) : Prop :=
  ∀ c ∈ s, isDropped c = false

instance (s : List Char) : Decidable (Displayable s) :=
  List.decidableBAll _ s

theorem displayable_append {s t : List Char} :
    Displayable (s ++ t) ↔ Displayable s ∧ Displayable t :=
  List.forall_mem_append

theorem displayable_slashes (slashes : Nat) :
    Displayable (List.replicate slashes '\\') := by
  intro c member
  rw [List.eq_of_mem_replicate member]
  decide

theorem IsStyle.displayable_closing {style : String}
    (named : IsStyle style.toList) :
    Displayable (Part.closing style).markup := by
  have front : Displayable ['[', '/'] := by
    decide
  have last : Displayable [']'] := by
    decide
  have inside : Displayable (['[', '/'] ++ style.toList) :=
    displayable_append.mpr ⟨front, named.clean_style.not_dropped⟩
  exact displayable_append.mpr ⟨inside, last⟩

theorem unescaped_sublist (s : List Char) : (unescaped s).Sublist s := by
  induction s with
  | nil => exact .slnil
  | cons c s induction =>
      rw [unescaped]
      split
      · exact .cons _ induction
      · exact .cons_cons _ induction

theorem displayable_unescaped {s : List Char} (displayable : Displayable s) :
    Displayable (unescaped (stem s)) := by
  rw [← stem_append_replicate s, displayable_append] at displayable
  exact fun c member => displayable.1 c ((unescaped_sublist _).subset member)

theorem displayable_seen {parts : List Part} (flat : Flat parts)
    (outside : ∀ text, .user text ∈ parts → Displayable text.toList) :
    Displayable (seen parts) := by
  induction flat with
  | nil => exact List.forall_mem_nil _
  | fixed clean _ induction =>
      have later :=
        induction fun text member =>
          outside text (List.mem_cons_of_mem _ member)
      exact displayable_append.mpr ⟨clean.not_dropped, later⟩
  | @styled style inner rest named within _ induction =>
      have later :=
        induction fun text member =>
          outside text (List.mem_append_right _ member)
      rw [styled_append, seen]
      cases within with
      | fixed clean =>
          simp only [List.cons_append, List.nil_append, seen,
            displayable_append]
          exact ⟨clean.not_dropped, later⟩
      | @user before text clean _ =>
          have kept := displayable_unescaped (outside text (by simp [styled]))
          have ended :
              Displayable (seenEnd style (slashesAtEnd text.toList)) := by
            refine displayable_append.mpr ⟨displayable_slashes _, ?_⟩
            split
            · exact named.displayable_closing
            · exact List.forall_mem_nil _
          simp only [List.cons_append, List.nil_append, seen,
            displayable_append]
          exact ⟨clean.not_dropped, ⟨kept, ended⟩, later⟩
      | @between before text after clean _ behind _ =>
          have kept := displayable_unescaped (outside text (by simp [styled]))
          simp only [List.cons_append, List.nil_append, seen,
            displayable_append]
          exact ⟨clean.not_dropped, ⟨kept, displayable_slashes _⟩,
            behind.not_dropped, later⟩

theorem plainText_flat {parts : List Part} (flat : Flat parts)
    (outside : ∀ text, .user text ∈ parts → Displayable text.toList) :
    plainText (render parts) = String.ofList (seen parts) := by
  have kept : (seen parts).filter (!isDropped ·) = seen parts := by
    rw [List.filter_eq_self]
    intro c member
    rw [displayable_seen flat outside c member]
    rfl
  rw [plainText, render, String.toList_ofList, pieces_flat flat,
    printed_cut flat, kept]

/-! ## Texts shown as they are -/

/-- No backslash stands in front of a bracket that begins no tag. -/
def KeepsSlashes (s : List Char) : Prop :=
  ∀ before after, s = before ++ '\\' :: '[' :: after →
    tag? ('[' :: after) ≠ none

/-- The texts from outside are shown as they are: in each of them no backslash
stands in front of a bracket that begins no tag; at most one backslash stands at
the end if a closing tag follows, and not a single one if fixed text follows. -/
def Verbatim : List Part → Prop
  | [] => True
  | .user text :: .closing _ :: rest =>
    (KeepsSlashes text.toList ∧ slashesAtEnd text.toList ≤ 1) ∧ Verbatim rest
  | .user text :: rest =>
      (KeepsSlashes text.toList ∧ slashesAtEnd text.toList ≠ 1) ∧ Verbatim rest
  | _ :: rest => Verbatim rest

theorem keepsSlashes_cons {c : Char} {s : List Char} :
    KeepsSlashes (c :: s) ↔
      ¬ (c = '\\' ∧ s.head? = some '[' ∧ tag? s = none) ∧ KeepsSlashes s := by
  constructor
  · intro keeps
    constructor
    · rintro ⟨rfl, bracket, absent⟩
      obtain ⟨after, rfl⟩ := List.head?_eq_some_iff.mp bracket
      exact keeps [] after rfl absent
    · rintro before after rfl
      exact keeps (c :: before) after rfl
  · rintro ⟨first, later⟩ before after split
    cases before with
    | nil =>
        obtain ⟨rfl, rfl⟩ := List.cons.inj split
        exact fun absent => first ⟨rfl, rfl, absent⟩
    | cons other before => exact later before after (List.cons.inj split).2

theorem unescaped_append_inj {s t u : List Char} :
    unescaped s ++ t = s ++ u ↔ KeepsSlashes s ∧ t = u := by
  induction s with
  | nil => simp [unescaped, KeepsSlashes]
  | cons c s induction =>
      rw [keepsSlashes_cons, unescaped]
      split
      · rename_i lost
        obtain ⟨rfl, bracket, _⟩ := lost
        obtain ⟨after, rfl⟩ := List.head?_eq_some_iff.mp bracket
        simp_all [unescaped_cons]
      · rename_i kept
        simp [kept, induction]

theorem replicate_append_inj {first second : Nat} {s t : List Char}
    (ends : s.head? ≠ some '\\') (other : t.head? ≠ some '\\') :
    List.replicate first '\\' ++ s = List.replicate second '\\' ++ t ↔
      first = second ∧ s = t := by
  induction first generalizing second with
  | zero =>
      cases second with
      | zero => simp
      | succ second =>
          simp [List.replicate_succ]
          rintro rfl
          exact ends rfl
  | succ first induction =>
      cases second with
      | zero =>
          simp [List.replicate_succ]
          rintro rfl
          exact other rfl
      | succ second => simp [List.replicate_succ, induction]

theorem keepsSlashes_append (slashes : Nat) (s : List Char) :
    KeepsSlashes (s ++ List.replicate slashes '\\') ↔ KeepsSlashes s := by
  have calm : Calm (List.replicate slashes '\\' ++ []) :=
    calm_nil.replicate slashes
  rw [List.append_nil] at calm
  induction s with
  | nil =>
      constructor
      · intro _ before after split
        simp at split
      · intro _ before after split
        have bracket : '[' ∈ List.replicate slashes '\\' := by
          rw [← List.nil_append (List.replicate slashes '\\'), split]
          simp
        cases List.eq_of_mem_replicate bracket
  | cons c s induction =>
      rw [List.cons_append, keepsSlashes_cons, keepsSlashes_cons]
      refine and_congr (not_congr ?_) induction
      cases s with
      | nil =>
          have head : (List.replicate slashes '\\').head? ≠ some '[' := by
            cases slashes <;> simp [List.replicate_succ]
          simp [head]
      | cons d s =>
          have same : tag? (d :: s ++ List.replicate slashes '\\') = none ↔
              tag? (d :: s) = none := by
            constructor
            · intro absent
              cases found : tag? (d :: s) with
              | none => rfl
              | some cut =>
                  rw [tag?_append found] at absent
                  cases absent
            · exact fun absent => tag?_append_of_none absent calm
          rw [same]
          rfl

theorem keepsSlashes_stem (s : List Char) :
    KeepsSlashes (stem s) ↔ KeepsSlashes s := by
  have whole := keepsSlashes_append (slashesAtEnd s) (stem s)
  rw [stem_append_replicate] at whole
  exact whole.symm

theorem head?_of_clean {s : List Char} (clean : Clean s) (filled : s ≠ [])
    (t : List Char) : (s ++ t).head? ≠ some '\\' := by
  obtain ⟨c, more, rfl⟩ := List.exists_cons_of_ne_nil filled
  simpa using (clean_cons.mp clean).1.2.2.1

theorem head?_of_flat {parts : List Part} (flat : Flat parts) :
    (seen parts).head? ≠ some '\\' ∧ (parts.flatMap Part.shown).head? ≠
      some '\\' := by
  have fixed {text : String} {s t : List Char} (clean : Clean text.toList)
      (later : s.head? ≠ some '\\' ∧ t.head? ≠ some '\\') :
      (text.toList ++ s).head? ≠ some '\\' ∧ (text.toList ++ t).head? ≠
        some '\\' := by
    by_cases filled : text.toList = []
    · rwa [filled]
    · exact ⟨head?_of_clean clean filled _, head?_of_clean clean filled _⟩
  induction flat with
  | nil => exact ⟨nofun, nofun⟩
  | fixed clean _ induction => exact fixed clean induction
  | @styled style inner rest named within _ induction =>
      rw [styled_append]
      cases within with
      | fixed clean => exact fixed clean induction
      | user clean filled =>
          exact ⟨head?_of_clean clean filled _, head?_of_clean clean filled _⟩
      | between clean filled _ _ =>
          exact ⟨head?_of_clean clean filled _, head?_of_clean clean filled _⟩

theorem guarded_half {slashes : Nat} :
    guarded slashes / 2 = slashes ↔ slashes ≤ 1 := by
  unfold guarded
  split <;> omega

theorem guarded_even {slashes : Nat} (few : slashes ≤ 1) :
    guarded slashes % 2 ≠ 1 := by
  unfold guarded
  split <;> omega

theorem guarded_eq_self {slashes : Nat} :
    guarded slashes = slashes ↔ slashes ≠ 1 := by
  unfold guarded
  split <;> omega

/-- What is seen of a flat template is what is meant to be shown, in exactly
this case. -/
theorem seen_eq_shown {parts : List Part} (flat : Flat parts) :
    seen parts = parts.flatMap Part.shown ↔ Verbatim parts := by
  induction flat with
  | nil => simp [seen, Verbatim]
  | fixed clean _ induction => simp [seen, Part.shown, Verbatim, induction]
  | @styled style inner rest named within later induction =>
      obtain ⟨ends, other⟩ := head?_of_flat later
      have whole (text : String) (t : List Char) :
          text.toList ++ t = stem text.toList ++
          (List.replicate (slashesAtEnd text.toList) '\\' ++ t) := by
        rw [← List.append_assoc, stem_append_replicate]
      rw [styled_append, seen]
      cases within with
      | fixed clean => simp [seen, Part.shown, Verbatim, induction]
      | @user before text clean filled =>
          have ended : (seenEnd style (slashesAtEnd text.toList) ++ seen rest =
              List.replicate (slashesAtEnd text.toList) '\\' ++
                rest.flatMap Part.shown) ↔
              slashesAtEnd text.toList ≤ 1 ∧ Verbatim rest := by
            have front : ((if guarded (slashesAtEnd text.toList) % 2 = 1 then
                (Part.closing style).markup
                  else []) ++ seen rest).head? ≠ some '\\' := by
              split
              · simp [Part.markup]
              · simpa using ends
            rw [seenEnd, List.append_assoc, replicate_append_inj front other,
              guarded_half, ← induction]
            refine and_congr_right fun few => ?_
            rw [if_neg (guarded_even few), List.nil_append]
          simp only [List.cons_append, List.nil_append, List.append_assoc,
            List.flatMap_cons, seen, Part.shown, Verbatim,
            List.append_cancel_left_eq]
          rw [whole text, unescaped_append_inj, ended, keepsSlashes_stem,
            and_assoc]
      | @between before text after clean filled behind more =>
          have ended :
              (List.replicate (guarded (slashesAtEnd text.toList)) '\\' ++
                (after.toList ++ seen rest) =
                List.replicate (slashesAtEnd text.toList) '\\' ++
                (after.toList ++ rest.flatMap Part.shown)) ↔
              slashesAtEnd text.toList ≠ 1 ∧ Verbatim rest := by
            rw [replicate_append_inj (head?_of_clean behind more _)
              (head?_of_clean behind more _), List.append_cancel_left_eq,
              induction, guarded_eq_self]
          simp only [List.cons_append, List.nil_append, List.append_assoc,
            List.flatMap_cons, seen, Part.shown, Verbatim,
            List.append_cancel_left_eq]
          rw [whole text, unescaped_append_inj, ended, keepsSlashes_stem,
            and_assoc]

end Markup

open Markup

/-- What is shown of a notice whose texts from outside hold no dropped controls.
It is what the notice is meant to show in exactly the case that these texts are
shown as they are. -/
theorem Notice.plainText_eq (notice : Notice)
    (outside : ∀ text, .user text ∈ notice.parts → Displayable text.toList) :
    plainText (render notice.parts) = String.ofList (seen notice.parts) ∧
      (plainText (render notice.parts) = shown notice.parts ↔
        Verbatim notice.parts) := by
  have plain := plainText_flat notice.flat outside
  refine ⟨plain, ?_⟩
  rw [plain, shown, String.ofList_inj]
  exact seen_eq_shown notice.flat

/-- A step that waits for an element whose selector is written with
backslashes. -/
private def bracketed : Notice :=
  .step ⟨⟨.waitFor "#item\\[0\\]", none, []⟩, true, 0, none, none⟩ 1

private theorem displayable_bracketed :
    ∀ text, .user text ∈ bracketed.parts → Displayable text.toList := by
  have parts :
      bracketed.parts = [.opening "green", .fixed "  ✅ ",
        .user "1. waitFor #item\\[0\\]", .closing "green", .opening "grey50",
        .fixed " (0ms)", .closing "grey50"] := by
    decide
  intro text member
  have same : text = "1. waitFor #item\\[0\\]" := by
    simpa [parts] using member
  rw [same]
  decide

theorem Notice.plainText_bracketed :
    plainText (render bracketed.parts) = "  ✅ 1. waitFor #item[0\\] (0ms)" ∧
      (plainText (render bracketed.parts) = shown bracketed.parts ↔
        Verbatim bracketed.parts) := by
  obtain ⟨plain, exact⟩ := Notice.plainText_eq bracketed displayable_bracketed
  exact ⟨plain.trans rfl, exact⟩

theorem Notice.bracketed_not_shown :
    (∀ text, .user text ∈ bracketed.parts → Displayable text.toList) ∧
      plainText (render bracketed.parts) ≠ shown bracketed.parts := by
  refine ⟨displayable_bracketed, ?_⟩
  rw [plainText_flat bracketed.flat displayable_bracketed, shown, ne_eq,
    String.ofList_inj]
  decide

end PageFlow
