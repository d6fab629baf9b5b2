import PageFlow.Proofs.Notices
import PageFlow.Runner

/-!
# Own tags

The only live tags in the markup of a flat template are those that the template
writes itself, and a live closing tag ends the style that its own opening tag
began. A closing tag may be lost, when the text before it ends in backslashes;
its opening tag then stays open behind it, below all that are opened later.
-/

namespace PageFlow

namespace Markup

/-! ## Live tags -/

/-- A tag that is not printed. -/
def Piece.isLive : Piece → Bool
  | .plain _ => false
  | .tag slashes _ => slashes % 2 == 0

theorem liveTags_append (place : Nat) (first second : List Piece) :
    liveTags place (first ++ second) =
      liveTags place first ++
        liveTags (place + (first.flatMap Piece.source).length) second := by
  induction first generalizing place with
  | nil => rfl
  | cons piece first induction =>
      cases piece with
      | plain c =>
          simp only [List.cons_append, liveTags, induction, List.flatMap_cons,
            Piece.source, List.length_cons, Nat.add_assoc, Nat.add_comm 1]
          rfl
      | tag slashes body =>
          simp only [List.cons_append, liveTags, induction, List.flatMap_cons,
            Piece.source, List.length_append, List.length_replicate,
            Nat.add_assoc]
          split <;> rfl

theorem liveTags_eq_nil {pieces : List Piece}
    (dead : ∀ piece ∈ pieces, piece.isLive = false) (place : Nat) :
    liveTags place pieces = [] := by
  induction pieces generalizing place with
  | nil => rfl
  | cons piece pieces induction =>
      have later :=
        induction fun other member => dead other (List.mem_cons_of_mem _ member)
      have first := dead piece (List.mem_cons_self ..)
      cases piece with
      | plain c => exact later _
      | tag slashes body =>
          rw [liveTags, if_neg (by simpa [Piece.isLive] using first)]
          exact later _

theorem dead_armored {piece : Piece} {pieces : List Piece}
    (member : piece ∈ pieces.map Piece.armored) : piece.isLive = false := by
  obtain ⟨bare, _, rfl⟩ := List.mem_map.mp member
  cases bare with
  | plain c => rfl
  | tag slashes body =>
      simp only [Piece.armored, Piece.isLive, beq_eq_false_iff_ne]
      omega

theorem source_map_armored (pieces : List Piece) :
    (pieces.map Piece.armored).flatMap Piece.source =
      pieces.flatMap Piece.escaped := by
  rw [List.flatMap_map]
  exact List.flatMap_congr fun piece _ => piece.source_armored

/-- Between two tags nothing is live, and the closing tag takes the backslashes
in front of it. -/
theorem exists_cut {inner : List Part} (within : Inner inner) (style : String)
    (rest : List Part) :
    ∃ dead slashes,
      cut (inner ++ .closing style :: rest) =
        dead ++ .tag slashes (Part.closing style).markup :: cut rest ∧
      (∀ piece ∈ dead, piece.isLive = false) ∧
      dead.flatMap Piece.source ++ List.replicate slashes '\\' =
        inner.flatMap Part.markup := by
  have plain (text : String) :
      (text.toList.map Piece.plain).flatMap Piece.source = text.toList := by
    rw [List.flatMap_map]
    exact List.flatMap_singleton' _
  have slashes (count : Nat) :
      (List.replicate count (Piece.plain '\\')).flatMap Piece.source =
      List.replicate count '\\' := by
    simp [List.flatMap_replicate, Piece.source]
  cases within with
  | @fixed text clean =>
      refine ⟨text.toList.map .plain, 0, rfl, ?_, ?_⟩
      · simp [Piece.isLive]
      · simp [plain, Part.markup]
  | @user before text clean _ =>
      refine ⟨before.toList.map .plain ++ (pieces (stem text.toList)).map
        Piece.armored, guarded (slashesAtEnd text.toList), ?_, ?_, ?_⟩
      · simp [cut]
      · intro piece member
        rcases List.mem_append.mp member with fixed | armored
        · obtain ⟨c, _, rfl⟩ := List.mem_map.mp fixed
          rfl
        · exact dead_armored armored
      · simp [plain, source_map_armored, Part.markup, escape_eq]
  | @between before text after clean _ later _ =>
      refine ⟨before.toList.map .plain ++ (pieces (stem text.toList)).map
        Piece.armored ++ List.replicate (guarded (slashesAtEnd text.toList))
        (.plain '\\') ++ after.toList.map .plain, 0, ?_, ?_, ?_⟩
      · simp [cut]
      · intro piece member
        simp only [List.mem_append] at member
        rcases member with ((fixed | armored) | slash) | fixed
        · obtain ⟨c, _, rfl⟩ := List.mem_map.mp fixed
          rfl
        · exact dead_armored armored
        · rw [List.eq_of_mem_replicate slash]
          rfl
        · obtain ⟨c, _, rfl⟩ := List.mem_map.mp fixed
          rfl
      · simp [plain, slashes, source_map_armored, Part.markup, escape_eq]

/-! ## Tags of templates -/

/-- The tags that a template writes itself; its markup begins at a place. -/
def ownTags (place : Nat) : List Part → List LiveTag
  | [] => []
  | part :: rest =>
    let later := ownTags (place + part.markup.length) rest
    match part with
    | .opening _ | .closing _ => ⟨place, part.markup⟩ :: later
    | .fixed _ | .user _ => later

/-- The tags that a template writes itself, every closing one with the opening
one that it is written for. The tags opened before stand with the last one
first. -/
def ownPairs (place : Nat) (opened : List LiveTag) :
    List Part → List (LiveTag × LiveTag)
  | [] => []
  | part :: rest =>
    let tag : LiveTag := ⟨place, part.markup⟩
    let behind := place + part.markup.length
    match part, opened with
    | .opening _, _ => ownPairs behind (tag :: opened) rest
    | .closing _, opener :: below => (opener, tag) :: ownPairs behind below rest
    | _, _ => ownPairs behind opened rest

theorem ownTags_append (place : Nat) (first second : List Part) :
    ownTags place (first ++ second) =
      ownTags place first ++
        ownTags (place + (first.flatMap Part.markup).length) second := by
  induction first generalizing place with
  | nil => rfl
  | cons part first induction =>
      simp only [List.cons_append, ownTags, induction, List.flatMap_cons,
        List.length_append, Nat.add_assoc]
      cases part <;> rfl

theorem within_ownTags {place : Nat} {parts : List Part} {tag : LiveTag}
    (member : tag ∈ ownTags place parts) :
    place ≤ tag.place ∧
      tag.place + tag.text.length ≤
        place + (parts.flatMap Part.markup).length := by
  induction parts generalizing place with
  | nil => cases member
  | cons part parts induction =>
      rw [List.flatMap_cons, List.length_append]
      have own (written : tag = ⟨place, part.markup⟩) : place ≤ tag.place ∧
          tag.place + tag.text.length ≤
            place + (part.markup.length +
              (parts.flatMap Part.markup).length) := by
        subst written
        constructor <;> dsimp only <;> omega
      have later (behind : tag ∈ ownTags (place + part.markup.length) parts) :
          place ≤ tag.place ∧
          tag.place + tag.text.length ≤
            place + (part.markup.length +
              (parts.flatMap Part.markup).length) := by
        obtain ⟨starts, ends⟩ := induction behind
        constructor <;> omega
      cases part with
      | opening style => exact (List.mem_cons.mp member).elim own later
      | closing style => exact (List.mem_cons.mp member).elim own later
      | fixed text => exact later member
      | user text => exact later member

theorem ownTags_inner {inner : List Part} (within : Inner inner) (place : Nat) :
    ownTags place inner = [] := by
  cases within <;> rfl

theorem ownPairs_inner {inner : List Part} (within : Inner inner) (place : Nat)
    (opened : List LiveTag) (rest : List Part) :
    ownPairs place opened (inner ++ rest) =
      ownPairs (place + (inner.flatMap Part.markup).length) opened rest := by
  cases within <;> simp [ownPairs, Nat.add_assoc]

/-! ## Flat templates -/

section Styled

-- Styled parts that begin at a place: their tags, and the place behind them.

variable {style : String} {inner : List Part}

def opener (style : String) (place : Nat) : LiveTag :=
  ⟨place, (Part.opening style).markup⟩

def closer (style : String) (inner : List Part) (place : Nat) : LiveTag :=
  ⟨place + (Part.opening style).markup.length +
    (inner.flatMap Part.markup).length, (Part.closing style).markup⟩

def behind (style : String) (inner : List Part) (place : Nat) : Nat :=
  (closer style inner place).place + (Part.closing style).markup.length

theorem ownTags_styled (within : Inner inner) (place : Nat) (rest : List Part) :
    ownTags place (styled style inner ++ rest) =
      opener style place :: closer style inner place ::
        ownTags (behind style inner place) rest := by
  rw [styled_append, ownTags, ownTags_append, ownTags_inner within, ownTags]
  rfl

theorem ownPairs_styled (within : Inner inner) (place : Nat)
    (opened : List LiveTag) (rest : List Part) :
    ownPairs place opened (styled style inner ++ rest) =
      (opener style place, closer style inner place) ::
        ownPairs (behind style inner place) opened rest := by
  rw [styled_append, ownPairs, ownPairs_inner within, ownPairs]
  rfl

/-- The opening tag of styled parts is live, and the closing one may be. -/
theorem liveTags_styled (style : String) (within : Inner inner) (place : Nat)
    (rest : List Part) :
    ∃ ended : Bool, liveTags place (cut (styled style inner ++ rest)) =
      opener style place ::
        ((if ended then [closer style inner place] else []) ++
          liveTags (behind style inner place) (cut rest)) := by
  obtain ⟨dead, slashes, pieces, quiet, source⟩ := exists_cut within style rest
  have length : (dead.flatMap Piece.source).length + slashes =
      (inner.flatMap Part.markup).length := by
    rw [← source, List.length_append, List.length_replicate]
  have whole :
      cut (styled style inner ++ rest) = .tag 0 (Part.opening style).markup ::
      (dead ++ .tag slashes (Part.closing style).markup :: cut rest) := by
    rw [styled_append, cut, pieces]
  refine ⟨slashes % 2 == 0, ?_⟩
  rw [whole, liveTags, if_pos (Nat.zero_mod 2), liveTags_append,
    liveTags_eq_nil quiet, liveTags, List.nil_append, opener, closer, behind,
    closer, ← length]
  by_cases even : slashes % 2 = 0 <;>
    simp only [even, Nat.add_zero, Nat.add_assoc, beq_self_eq_true, beq_iff_eq,
      if_true, if_false, List.cons_append, List.nil_append]

end Styled

theorem liveTags_sublist {parts : List Part} (flat : Flat parts) (place : Nat) :
    (liveTags place (cut parts)).Sublist (ownTags place parts) := by
  induction flat generalizing place with
  | nil => exact List.nil_sublist _
  | @fixed text rest clean _ induction =>
      rw [cut, liveTags_append, liveTags_eq_nil (by simp [Piece.isLive]),
        List.nil_append, ownTags]
      have behind := induction (place + text.toList.length)
      simpa [List.flatMap_map, Piece.source, Part.markup] using behind
  | @styled style inner rest named within _ induction =>
      obtain ⟨ended, tags⟩ := liveTags_styled style within place rest
      rw [tags, ownTags_styled within]
      refine .cons_cons _ ?_
      cases ended with
      | true => exact .cons_cons _ (induction _)
      | false => exact .cons _ (induction _)

theorem pairTags_opening {tag : LiveTag} (opens : tag.closes? = none)
    (opened rest : List LiveTag) :
    pairTags opened (tag :: rest) = pairTags (tag :: opened) rest := by
  rw [pairTags, opens]

theorem pairTags_closing {style : List Char} {tag first : LiveTag}
    (closes : tag.closes? = some style) (begun : first.style = style)
    (opened rest : List LiveTag) :
    pairTags (first :: opened) (tag :: rest) =
      (pairTags opened rest).map ((first, tag) :: ·) := by
  have found : takeOpen style (first :: opened) = some (first, opened) := by
    rw [takeOpen, if_pos (by simp [begun])]
  rw [pairTags, closes]
  simp only [found]

/-- Every live closing tag finds its own opening tag, whatever was opened
before. -/
theorem exists_pairTags {parts : List Part} (flat : Flat parts) (place : Nat)
    (opened above : List LiveTag) :
    ∃ pairs, pairTags opened (liveTags place (cut parts)) = .ok pairs ∧
      pairs.map Prod.snd =
        (liveTags place (cut parts)).filter (fun tag => tag.closes?.isSome) ∧
      pairs.Sublist (ownPairs place above parts) := by
  -- Opening tags whose closing tag was lost pile up in `opened`. They are never
  -- taken, since the next closing tag finds the opening tag of its own style on
  -- top of them.
  induction flat generalizing place opened with
  | nil => exact ⟨[], rfl, rfl, List.nil_sublist _⟩
  | @fixed text rest clean _ induction =>
      rw [cut, liveTags_append, liveTags_eq_nil (by simp [Piece.isLive]),
        List.nil_append]
      have behind := induction (place + text.toList.length) opened
      simpa [List.flatMap_map, Piece.source, Part.markup, ownPairs] using behind
  | @styled style inner rest named within _ induction =>
      obtain ⟨ended, tags⟩ := liveTags_styled style within place rest
      have opens : (opener style place).closes? = none :=
        (named.opening place).1
      have begun : (opener style place).style = style.toList :=
        (named.opening place).2
      have closes : (closer style inner place).closes? = some style.toList :=
        named.closing _
      rw [tags, ownPairs_styled within, pairTags_opening opens]
      cases ended with
      | true =>
          obtain ⟨pairs, paired, closing, own⟩ :=
            induction (behind style inner place) opened
          refine ⟨(opener style place, closer style inner place) :: pairs, ?_,
            ?_, .cons_cons _ own⟩
          · rw [if_pos rfl, List.singleton_append,
              pairTags_closing closes begun, paired]
            rfl
          · simp [opens, closes, closing]
      | false =>
          obtain ⟨pairs, paired, closing, own⟩ :=
            induction (behind style inner place) (opener style place :: opened)
          exact ⟨pairs, paired, by simp [opens, closing], .cons _ own⟩

theorem tagsOf_flat {parts : List Part} (flat : Flat parts) :
    tagsOf (render parts) = liveTags 0 (cut parts) := by
  rw [tagsOf, render, String.toList_ofList, pieces_flat flat]

end Markup

/-! ## Reports -/

theorem Report.exists_printed {parts : List Markup.Part}
    (flat : Markup.Flat parts) :
    ∃ text, printed? parts = .ok text := by
  obtain ⟨pairs, paired, _⟩ := Markup.exists_pairTags flat 0 [] []
  have shown : Markup.console? (Markup.render parts) =
      .ok (Markup.consoleText (Markup.plainText (Markup.render parts))) := by
    rw [Markup.console?, Markup.tagsOf_flat flat, paired]
    rfl
  exact ⟨_, shown⟩

variable {σ : Type}

theorem Runner.printReport_eq {parts : List Markup.Part}
    (flat : Markup.Flat parts) :
    ∃ text, (printReport parts : Act σ Unit) = Act.print text := by
  obtain ⟨text, printed⟩ := Report.exists_printed flat
  refine ⟨text, ?_⟩
  rw [printReport, printed]
  rfl

/-- The live tags in the markup of a notice are its own ones, none of which
touches text from outside. Every live closing tag ends the style of its own
opening tag, so that the notice can be printed. -/
theorem Notice.tags_are_own (notice : Notice) :
    let tags := Markup.tagsOf (Markup.render notice.parts)
    tags.Sublist (Markup.ownTags 0 notice.parts) ∧
    (∀ before text after, notice.parts = before ++ .user text :: after →
      ∀ tag ∈ tags,
      let start := (before.flatMap Markup.Part.markup).length
      tag.place + tag.text.length ≤ start ∨
        start + (Markup.escape text.toList).length ≤ tag.place) ∧
    (∃ pairs, Markup.pairTags [] tags = .ok pairs ∧
      pairs.map Prod.snd = tags.filter (fun tag => tag.closes?.isSome) ∧
      pairs.Sublist (Markup.ownPairs 0 [] notice.parts)) ∧
    ∀ world : World σ, (Runner.printReport notice.parts world).1 = .ok () := by
  have own := Markup.liveTags_sublist notice.flat 0
  rw [← Markup.tagsOf_flat notice.flat] at own
  refine ⟨own, ?_, ?_, ?_⟩
  · intro before text after split tag member
    have written := own.subset member
    rw [split, Markup.ownTags_append, List.mem_append] at written
    rcases written with first | second
    · left
      have within := (Markup.within_ownTags first).2
      omega
    · right
      rw [Nat.zero_add] at second
      have behind : tag ∈ Markup.ownTags
          ((before.flatMap Markup.Part.markup).length +
            (Markup.escape text.toList).length) after :=
        second
      exact (Markup.within_ownTags behind).1
  · rw [Markup.tagsOf_flat notice.flat]
    exact Markup.exists_pairTags notice.flat 0 [] []
  · intro world
    obtain ⟨text, printing⟩ := Runner.printReport_eq (σ := σ) notice.flat
    rw [printing]
    rfl

end PageFlow
