import PageFlow.Proofs.Misfits
import PageFlow.Yaml.Lexer

/-!
# Faults of the characters of a stream

The tokens of a stream end with a fault that no check raises only for one
reason: an escape in a quoted scalar names a character by a number that is too
large to be looked at. Among the tokens themselves, the text of a plain scalar
never ends in a line break.
-/

namespace PageFlow.Yaml

/-! ## Places of a text -/

/-- A place in a text. -/
def Cursor.In (s : List Char) (cursor : Cursor) : Prop :=
  cursor.rest <:+ s

namespace Cursor.In

variable {s : List Char} {cursor : Cursor}

theorem next (inside : cursor.In s) : cursor.next.In s := by
  unfold Cursor.next
  split
  · exact inside
  · rename_i c rest front
    have behind : rest <:+ s := (List.suffix_cons c rest).trans (front ▸ inside)
    split
    · exact behind
    · split
      · exact behind
      · exact behind

theorem advance {n : Nat} (inside : cursor.In s) : (cursor.advance n).In s := by
  induction n generalizing cursor with
  | zero => exact inside
  | succ n induction => exact induction inside.next

theorem takeWhile {p : Char → Bool} (inside : cursor.In s) :
    (cursor.takeWhile p).2.In s :=
  inside.advance

theorem skipWhile {p : Char → Bool} (inside : cursor.In s) :
    (cursor.skipWhile p).In s :=
  inside.advance

theorem lineBreak (inside : cursor.In s) : cursor.lineBreak.2.In s := by
  unfold Cursor.lineBreak
  split
  · exact inside.advance
  · split
    · exact inside.next
    · split
      · exact inside.next
      · exact inside
  · exact inside

end Cursor.In

/-! ## Escapes by number -/

/-- A text holds an escape that names a character by a number too large to be
looked at. -/
def HoldsOversized (s : List Char) : Prop :=
  ∃ digits, digits.length = 8 ∧ codePoint digits = .error .codePointSize ∧
    ('\\' :: 'U' :: digits) <:+: s

theorem hexValue_lt {c : Char} {n : Nat} (read : Json.hexValue? c = some n) :
    n < 16 := by
  unfold Json.hexValue? at read
  simp only [Char.le_def, UInt32.le_iff_toNat_le] at read
  have code : c.toNat = c.val.toNat := rfl
  split at read
  · rename_i digit
    cases read
    have := digit.2
    simp at this
    omega
  · split at read
    · rename_i small
      cases read
      have := small.2
      simp at this
      omega
    · split at read
      · rename_i capital
        cases read
        have := capital.2
        simp at this
        omega
      · cases read

theorem foldl_lt_of_hexValues {digits : List Char} {values : List Nat}
    (read : digits.mapM Json.hexValue? = some values) (n : Nat) :
    values.foldl (fun n d => 16 * n + d) n <
      (n + 1) * Nat.pow 16 digits.length := by
  induction digits generalizing values n with
  | nil =>
      cases read
      simp
  | cons c digits induction =>
      simp only [List.mapM_cons, Option.bind_eq_bind,
        Option.bind_eq_some_iff] at read
      obtain ⟨d, first, rest, later, read⟩ := read
      cases read
      have small := hexValue_lt first
      calc
        _ < (16 * n + d + 1) * Nat.pow 16 digits.length := induction later _
        _ ≤ (16 * (n + 1)) * Nat.pow 16 digits.length :=
          Nat.mul_le_mul_right _ (by omega)
        _ = (n + 1) * Nat.pow 16 (digits.length + 1) := by
          rw [Nat.mul_comm 16, Nat.mul_assoc, Nat.mul_comm 16]
          rfl

/-- Eight digits are needed for a number that is too large. -/
theorem eight_le_of_codePoint {digits : List Char}
    (failed : codePoint digits = .error .codePointSize) :
    8 ≤ digits.length := by
  unfold codePoint at failed
  split at failed
  · cases failed
  · rename_i values read
    dsimp only at failed
    split at failed
    · cases failed
    · split at failed
      · cases failed
      · rename_i large
        have bounded := foldl_lt_of_hexValues read 0
        by_contra short
        have few : Nat.pow 16 digits.length ≤ Nat.pow 16 7 :=
          Nat.pow_le_pow_right (by decide) (by omega)
        have : Nat.pow 16 7 = 268435456 := by decide
        omega

theorem eq_of_escapeWidth {mark : Char} {width : Nat}
    (wide : escapeWidth? mark = some width) (enough : 8 ≤ width) :
    mark = 'U' ∧ width = 8 := by
  unfold escapeWidth? at wide
  split at wide <;> cases wide
  · contradiction
  · contradiction
  · exact ⟨rfl, rfl⟩

/-- A fault at which a text may stop: a stray one stands for an escape in it. -/
def Stops (s : List Char) (fault : Fault) : Prop :=
  fault.isStray = true → fault = .codePointSize ∧ HoldsOversized s

theorem stops_malformed {s : List Char} : Stops s .malformed :=
  fun stray => by cases stray

/-- Something of a text was read up to another place in it, or the text stopped
the reading. -/
def Reads {α : Type} (s : List Char) : Except Fault (α × Cursor) → Prop :=
  Yields (fun result => result.2.In s) (Stops s)

variable {s : List Char} {cursor : Cursor}

/-! ## Plain scalars -/

theorem in_plainEmptyLines {fuel : Nat} {lines : List Char}
    (inside : cursor.In s) :
    (plainEmptyLines fuel lines cursor).2.In s := by
  induction fuel generalizing lines cursor with
  | zero => exact inside
  | succ fuel induction =>
      unfold plainEmptyLines
      split
      · split
        · exact induction inside.next
        · split
          · dsimp only
            split
            · exact inside.lineBreak
            · exact induction inside.lineBreak
          · exact inside
      · exact inside

theorem in_plainGap (inside : cursor.In s) : (plainGap cursor).2.2.In s := by
  have before := inside.takeWhile (p := (· == ' '))
  unfold plainGap
  dsimp only
  split
  · exact before
  · rename_i lineEnd after _ found
    have behind : after.In s := by
      have broken := before.lineBreak
      rwa [found] at broken
    split
    · exact behind
    · have empty : (plainEmptyLines (after.rest.length + 1) [] after).2.In s :=
        in_plainEmptyLines behind
      split
      · rename_i none
        rwa [none] at empty
      · rename_i some
        rwa [some] at empty

theorem in_plainWords {inFlow ended : Bool} {indent : Int} {fuel : Nat}
    {text gap : List Char} (inside : cursor.In s) :
    (plainWords inFlow indent fuel text gap ended cursor).2.2.In s := by
  induction fuel generalizing text gap ended cursor with
  | zero => exact inside
  | succ fuel induction =>
      unfold plainWords
      split
      · exact inside
      · split
        · exact inside
        · dsimp only
          split
          · exact in_plainGap inside.advance
          · exact induction (in_plainGap inside.advance)

theorem in_readPlain {inFlow : Bool} {indent : Int} (inside : cursor.In s) :
    (readPlain inFlow indent cursor).2.2.In s :=
  in_plainWords inside

/-- The text of a token has no line break at its end, if it is a plain
scalar. -/
def Token.IsTight : Token → Prop
  | .scalar text true => text.toList.getLast? ≠ some '\n'
  | _ => True

theorem ne_of_mem_plainWord {inFlow : Bool} {rest : List Char} {c : Char}
    (member : c ∈ plainWord inFlow rest) : c ≠ '\n' := by
  induction rest with
  | nil => cases member
  | cons first rest induction =>
      unfold plainWord at member
      split at member
      · cases member
      · rename_i inside
        rcases List.mem_cons.mp member with rfl | later
        · rintro rfl
          simp [endsWord, isBreak] at inside
        · exact induction later

theorem tight_plainWords {inFlow ended : Bool} {indent : Int} {fuel : Nat}
    {text gap : List Char} (tight : text.getLast? ≠ some '\n') :
    (plainWords inFlow indent fuel text gap ended cursor).1.getLast? ≠
      some '\n' := by
  induction fuel generalizing text gap ended cursor with
  | zero => exact tight
  | succ fuel induction =>
      unfold plainWords
      split
      · exact tight
      · split
        · exact tight
        · rename_i some
          have longer : (text ++ gap ++ plainWord inFlow cursor.rest).getLast? ≠
              .some '\n' := by
            rw [List.getLast?_append_of_ne_nil _ some]
            exact fun last =>
              ne_of_mem_plainWord (List.mem_of_getLast? last) rfl
          dsimp only
          split
          · exact longer
          · exact induction longer

theorem tight_readPlain {inFlow : Bool} {indent : Int} :
    (Token.scalar (String.ofList (readPlain inFlow indent cursor).1)
      true).IsTight := by
  rw [Token.IsTight, String.toList_ofList]
  exact tight_plainWords nofun

/-! ## Quoted scalars -/

theorem reads_quotedEmptyLines {fuel : Nat} {lines : List Char}
    (inside : cursor.In s) :
    Reads s (quotedEmptyLines fuel lines cursor) := by
  induction fuel generalizing lines cursor with
  | zero => exact inside
  | succ fuel induction =>
      unfold quotedEmptyLines
      split
      · exact stops_malformed
      · dsimp only
        have before := inside.skipWhile (p := fun c => c == ' ' || c == '\t')
        split
        · exact before
        · rename_i found
          have broken := before.lineBreak
          rw [found] at broken
          exact induction broken

theorem stops_codePoint {mark : Char} {width : Nat} {digits : List Char}
    (wide : escapeWidth? mark = some width) (long : digits.length = width)
    (escape : ('\\' :: mark :: digits) <:+: s) :
    Yields (fun _ => True) (Stops s) (codePoint digits) := by
  cases failed : codePoint digits with
  | ok c => trivial
  | error fault =>
      intro stray
      have oversized : fault = .codePointSize := by
        unfold codePoint at failed
        split at failed
        · cases failed
          cases stray
        · dsimp only at failed
          split at failed
          · cases failed
          · split at failed
            · cases failed
              cases stray
            · exact (Except.error.inj failed).symm
      subst oversized
      obtain ⟨rfl, rfl⟩ :=
        eq_of_escapeWidth wide (long ▸ eight_le_of_codePoint failed)
      exact ⟨rfl, digits, long, failed, escape⟩

theorem reads_quotedWord {double : Bool} {fuel : Nat} {text : List Char}
    (inside : cursor.In s) :
    Reads s (quotedWord double fuel text cursor) := by
  induction fuel generalizing text cursor with
  | zero => exact inside
  | succ fuel induction =>
      unfold quotedWord
      dsimp only
      have word := inside.takeWhile (p := isQuotedPlain)
      generalize (cursor.takeWhile isQuotedPlain).2 = place at word ⊢
      split
      · exact word
      · rename_i c rest front
        split
        · exact induction word.advance
        · split
          · exact induction word.next
          · split
            · rename_i backslash
              split
              · exact stops_malformed
              · rename_i mark digits _
                split
                · exact induction word.advance
                · rename_i width _ wide
                  split
                  · exact stops_malformed
                  · rename_i enough
                    have long : (digits.take width).length = width :=
                      List.length_take_of_le (Nat.le_of_not_lt enough)
                    have escape :
                        ('\\' :: mark :: digits.take width) <:+: s := by
                      obtain ⟨rfl⟩ : c = '\\' := by
                        simpa using (Bool.and_eq_true_iff.mp backslash).2
                      obtain ⟨before, split⟩ := word
                      refine ⟨before, digits.drop width, ?_⟩
                      rw [← split, front, List.append_assoc, List.cons_append,
                        List.cons_append, List.take_append_drop]
                    exact (stops_codePoint wide long escape).bind fun _ _ =>
                      induction word.advance
                · split
                  · refine (reads_quotedEmptyLines word.next.lineBreak).bind
                      fun lines read => ?_
                    exact induction read
                  · exact stops_malformed
            · exact word

theorem reads_quotedGap (inside : cursor.In s) :
    Reads s (quotedGap cursor) := by
  have before := inside.takeWhile (p := fun c => c == ' ' || c == '\t')
  unfold quotedGap
  dsimp only
  split
  · exact stops_malformed
  · split
    · exact before
    · rename_i found
      have broken := before.lineBreak
      rw [found] at broken
      exact (reads_quotedEmptyLines broken).bind fun _ read => read

theorem reads_quotedParts {quote : Char} {fuel : Nat} {text : List Char}
    (inside : cursor.In s) :
    Reads s (quotedParts quote fuel text cursor) := by
  induction fuel generalizing text cursor with
  | zero => exact stops_malformed
  | succ fuel induction =>
      unfold quotedParts
      split
      · exact inside.next
      · exact (reads_quotedGap inside).bind fun _ gap =>
          (reads_quotedWord gap).bind fun _ word => induction word

theorem reads_readQuoted {quote : Char} (inside : cursor.In s) :
    Reads s (readQuoted quote cursor) :=
  (reads_quotedWord inside.next).bind fun _ word => reads_quotedParts word

/-! ## Block scalars -/

theorem yields_readCommentLine (inside : cursor.In s) :
    Yields (Cursor.In s) (Stops s) (readCommentLine cursor) := by
  unfold readCommentLine
  dsimp only
  have ended {place : Cursor} (there : place.In s) :
      Yields (Cursor.In s) (Stops s)
        (if endsLine place.peek? then .ok place.lineBreak.2
          else .error .malformed) := by
    split
    · exact there.lineBreak
    · exact stops_malformed
  split
  · exact ended inside.skipWhile.skipWhile
  · exact ended inside.skipWhile

theorem yields_blockMarks (inside : cursor.In s) :
    Yields (fun marks => marks.2.2.In s) (Stops s) (blockMarks cursor) := by
  unfold blockMarks
  split
  rename_i chomping increment after found
  have read : after.In s := by
    split at found
    · split at found
      · cases found
        exact inside.advance
      · cases found
        exact inside.next
    · split at found
      · split at found
        · cases found
          exact inside.advance
        · cases found
          exact inside.next
      · cases found
        exact inside
  dsimp only
  split
  · exact stops_malformed
  · split
    · exact stops_malformed
    · exact read

theorem in_blockIndentation {fuel widest : Nat} {lines : List Char}
    (inside : cursor.In s) :
    (blockIndentation fuel lines widest cursor).2.2.In s := by
  induction fuel generalizing lines widest cursor with
  | zero => exact inside
  | succ fuel induction =>
      unfold blockIndentation
      split
      · split
        · exact induction inside.next
        · split
          · exact induction inside.lineBreak
          · exact inside
      · exact inside

theorem in_blockEmptyLines {indent fuel : Nat} {lines : List Char}
    (inside : cursor.In s) :
    (blockEmptyLines indent fuel lines cursor).2.In s := by
  induction fuel generalizing lines cursor with
  | zero => exact inside
  | succ fuel induction =>
      unfold blockEmptyLines
      split
      · exact inside
      · rename_i found
        have broken := inside.lineBreak
        rw [found] at broken
        exact induction broken.advance

theorem in_readEmptyLines {indent : Nat} (inside : cursor.In s) :
    (readEmptyLines indent cursor).2.In s :=
  in_blockEmptyLines inside.advance

theorem in_blockLines {fold : Bool} {indent fuel : Nat}
    {text lineEnd empty : List Char} (inside : cursor.In s) :
    (blockLines fold indent fuel text lineEnd empty cursor).2.2.2.In s := by
  induction fuel generalizing text lineEnd empty cursor with
  | zero => exact inside
  | succ fuel induction =>
      unfold blockLines
      split
      · dsimp only
        split
        · exact induction (in_readEmptyLines inside.takeWhile.lineBreak)
        · exact in_readEmptyLines inside.takeWhile.lineBreak
      · exact inside

theorem reads_readBlock {fold : Bool} {indent : Int} (inside : cursor.In s) :
    Reads s (readBlock fold indent cursor) := by
  refine (yields_blockMarks inside.next).bind fun marks read => ?_
  refine (yields_readCommentLine read).bind fun behind line => ?_
  dsimp only
  refine in_blockLines ?_
  split
  · exact in_readEmptyLines line
  · exact in_blockIndentation line

/-! ## Labels -/

theorem reads_readName (inside : cursor.In s) : Reads s (readName cursor) := by
  have behind := inside.next.takeWhile (p := isNameChar)
  unfold readName
  dsimp only
  split
  · exact stops_malformed
  · split
    · exact behind
    · split
      · exact stops_malformed
      · exact behind

theorem reads_uriEscapes {fuel : Nat} {bytes : List UInt8}
    (inside : cursor.In s) :
    Reads s (uriEscapes fuel bytes cursor) := by
  induction fuel generalizing bytes cursor with
  | zero => exact inside
  | succ fuel induction =>
      unfold uriEscapes
      split
      · split
        · exact induction inside.advance
        · exact stops_malformed
      · exact stops_malformed
      · exact inside

theorem reads_uriChars {fuel : Nat} {text : List Char} (inside : cursor.In s) :
    Reads s (uriChars fuel text cursor) := by
  induction fuel generalizing text cursor with
  | zero => exact inside
  | succ fuel induction =>
      have behind := inside.takeWhile (p := fun c => isUriChar c && c != '%')
      unfold uriChars
      dsimp only
      split
      · refine (reads_uriEscapes behind).bind fun escapes read => ?_
        split
        · exact induction read
        · exact stops_malformed
      · exact behind

theorem reads_readUri (inside : cursor.In s) : Reads s (readUri cursor) := by
  unfold readUri
  dsimp only
  split
  · exact stops_malformed
  · exact (reads_uriChars inside).bind fun _ read => read

theorem reads_readHandle (inside : cursor.In s) :
    Reads s (readHandle cursor) := by
  unfold readHandle
  dsimp only
  split
  · exact stops_malformed
  · split
    · exact inside.next
    · split
      · exact stops_malformed
      · exact inside.next.takeWhile.next

/-- A token of a text was read up to another place in it, or the text stopped
the reading. -/
def ReadsToken (s : List Char) : Except Fault (Token × Cursor) → Prop :=
  Yields (fun result => result.1.IsTight ∧ result.2.In s) (Stops s)

theorem reads_readTag (inside : cursor.In s) :
    ReadsToken s (readTag cursor) := by
  have ended {handle : Option String} {suffix : String} {place : Cursor}
      (there : place.In s) :
      ReadsToken s (if !endsField place.peek? then throw .malformed
        else pure (.tag handle suffix, place)) := by
    split
    · exact stops_malformed
    · exact ⟨trivial, there⟩
  have suffixed {handle : String} {place : Cursor} (there : place.In s) :
      ReadsToken s (readUri place >>= fun suffix =>
        if !endsField suffix.2.peek? then throw .malformed
        else pure (Token.tag (some handle) suffix.1, suffix.2)) :=
    (reads_readUri there).bind fun _ read => ended read
  unfold readTag
  dsimp only
  split
  · refine (reads_readUri inside.advance).bind fun uri read => ?_
    split
    · exact stops_malformed
    · exact ended read.next
  · split
    · exact ended inside.next
    · split
      · exact (reads_readHandle inside).bind fun _ read => suffixed read
      · exact suffixed inside.next

theorem reads_readVersionNumber (inside : cursor.In s) :
    Reads s (readVersionNumber cursor) := by
  unfold readVersionNumber
  dsimp only
  split
  · exact stops_malformed
  · exact inside.takeWhile

theorem reads_readDirective (inside : cursor.In s) :
    ReadsToken s (readDirective cursor) := by
  have name := inside.next.takeWhile (p := isNameChar)
  have closed {token : Token} {place : Cursor} (tight : token.IsTight)
      (there : place.In s) :
      ReadsToken s (readCommentLine place >>= fun place =>
        pure (token, place)) :=
    (yields_readCommentLine there).bind fun _ line => ⟨tight, line⟩
  unfold readDirective
  dsimp only
  split
  · exact stops_malformed
  · split
    · exact stops_malformed
    · split
      · refine (reads_readVersionNumber name.skipWhile).bind fun major read =>
          ?_
        split
        · exact stops_malformed
        · refine (reads_readVersionNumber read.next).bind fun minor read => ?_
          split
          · exact stops_malformed
          · exact closed trivial read
      · split
        · refine (reads_readHandle name.skipWhile).bind fun handle read => ?_
          split
          · exact stops_malformed
          · refine (reads_readUri read.skipWhile).bind fun uri read => ?_
            split
            · exact stops_malformed
            · exact closed trivial read
        · exact closed trivial name.skipWhile

/-! ## Tokens -/

namespace Lexer

variable {lexer : Lexer}

/-- A lexer of a text is at a place in it and has tokens as they come from
texts. -/
structure In (s : List Char) (lexer : Lexer) : Prop where
  cursor : lexer.cursor.In s
  tokens : ∀ token ∈ lexer.tokens, token.IsTight

/-- A token was read up to a place in a text, or the text stopped the
reading. -/
def Goes (s : List Char) : Except Fault Lexer → Prop :=
  Yields (In s) (Stops s)

namespace In

variable {token : Token}

theorem push (inside : lexer.In s) (tight : token.IsTight) :
    (lexer.push token).In s :=
  ⟨inside.cursor, List.forall_mem_cons.mpr ⟨tight, inside.tokens⟩⟩

theorem pushOver {width : Nat} (inside : lexer.In s) (tight : token.IsTight) :
    (lexer.pushOver token width).In s :=
  ⟨inside.cursor.advance, (inside.push tight).tokens⟩

theorem insertAt {number : Nat} (inside : lexer.In s) (tight : token.IsTight) :
    (lexer.insertAt number token).In s := by
  refine ⟨inside.cursor,
    List.forall_mem_append.mpr ⟨fun other member => ?_, ?_⟩⟩
  · exact inside.tokens other (List.mem_of_mem_take member)
  · exact List.forall_mem_cons.mpr ⟨tight, fun other member =>
      inside.tokens other (List.mem_of_mem_drop member)⟩

end In

theorem goes_dropCandidate (inside : lexer.In s) :
    Goes s lexer.dropCandidate := by
  unfold dropCandidate
  split
  · exact inside
  · split
    · exact stops_malformed
    · exact ⟨inside.cursor, inside.tokens⟩

theorem goes_dropStale (inside : lexer.In s) : Goes s lexer.dropStale := by
  unfold dropStale
  split
  · exact stops_malformed
  · exact ⟨inside.cursor, inside.tokens⟩

theorem goes_saveCandidate (inside : lexer.In s) :
    Goes s lexer.saveCandidate := by
  unfold saveCandidate
  split
  · exact (goes_dropCandidate inside).bind fun _ dropped =>
      ⟨dropped.cursor, dropped.tokens⟩
  · exact inside

theorem in_close {column : Int} {indents : List Int} (inside : lexer.In s) :
    (unwind.close column indents lexer).In s := by
  induction indents generalizing lexer with
  | nil => exact inside
  | cons outer indents induction =>
      unfold unwind.close
      split
      · have closed : (lexer.push .blockEnd).In s := inside.push trivial
        exact induction ⟨closed.cursor, closed.tokens⟩
      · exact inside

theorem in_unwind {column : Int} (inside : lexer.In s) :
    (lexer.unwind column).In s := by
  unfold unwind
  split
  · exact in_close inside
  · exact inside

theorem in_deepen {column : Nat} {deeper : Lexer} (inside : lexer.In s)
    (found : lexer.deepen column = some deeper) : deeper.In s := by
  unfold deepen at found
  split at found
  · cases found
    exact ⟨inside.cursor, inside.tokens⟩
  · cases found

theorem goes_leaveBlocks (inside : lexer.In s) : Goes s lexer.leaveBlocks :=
  (goes_dropCandidate (in_unwind inside)).bind fun _ dropped =>
    ⟨dropped.cursor, dropped.tokens⟩

theorem goes_openFlow {token : Token} (inside : lexer.In s)
    (tight : token.IsTight) : Goes s (lexer.openFlow token) :=
  (goes_saveCandidate inside).bind fun _ saved =>
    ⟨saved.cursor.advance, (saved.push tight).tokens⟩

theorem goes_closeFlow {token : Token} (inside : lexer.In s)
    (tight : token.IsTight) :
    Goes s (lexer.closeFlow token) :=
  (goes_dropCandidate inside).bind fun _ dropped =>
    ⟨dropped.cursor.advance, (dropped.push tight).tokens⟩

theorem goes_openBlock {opening : Token} (inside : lexer.In s)
    (tight : opening.IsTight) :
    Goes s (lexer.openBlock opening) := by
  unfold openBlock
  split
  · exact inside
  · split
    · exact stops_malformed
    · split
      · exact (in_deepen inside ‹_›).push tight
      · exact inside

theorem goes_indicator {token : Token} {allowed : Bool} (inside : lexer.In s)
    (tight : token.IsTight) :
    Goes s ({ lexer with allowKey := allowed }.dropCandidate >>= fun after =>
      pure (after.pushOver token 1)) := by
  have same : ({ lexer with allowKey := allowed } : Lexer).In s :=
    ⟨inside.cursor, inside.tokens⟩
  exact (goes_dropCandidate same).bind fun _ dropped => dropped.pushOver tight

theorem goes_flowEntry (inside : lexer.In s) : Goes s lexer.flowEntry :=
  goes_indicator inside trivial

theorem goes_blockEntry (inside : lexer.In s) : Goes s lexer.blockEntry :=
  (@goes_openBlock s lexer .blockSequenceStart inside trivial).bind
    fun _ opened => goes_indicator opened trivial

theorem goes_explicitKey (inside : lexer.In s) : Goes s lexer.explicitKey :=
  (@goes_openBlock s lexer .blockMappingStart inside trivial).bind
    fun _ opened => goes_indicator opened trivial

theorem goes_keyValue (inside : lexer.In s) : Goes s lexer.keyValue := by
  unfold keyValue
  split
  · rename_i candidate _
    extract_lets without keyed mapped
    have dropped : without.In s := ⟨inside.cursor, inside.tokens⟩
    have key : keyed.In s := dropped.insertAt trivial
    have mapping : mapped.In s := by
      dsimp only [mapped]
      split
      · split
        · exact (in_deepen key ‹_›).insertAt trivial
        · exact key
      · exact key
    have pushed : (mapped.pushOver .value 1).In s := mapping.pushOver trivial
    exact ⟨pushed.cursor, pushed.tokens⟩
  · exact (@goes_openBlock s lexer .blockMappingStart inside trivial).bind
      fun _ opened =>
      goes_indicator opened trivial

theorem goes_pushContent {read : Cursor → Except Fault (Token × Cursor)}
    (inside : lexer.In s)
    (reads : ∀ cursor : Cursor, cursor.In s → ReadsToken s (read cursor)) :
    Goes s (lexer.pushContent read) :=
  (goes_saveCandidate inside).bind fun _ saved =>
    (reads _ saved.cursor).bind fun _ behind =>
    ⟨behind.2, (saved.push behind.1).tokens⟩

theorem goes_pushPlain (inside : lexer.In s) : Goes s lexer.pushPlain :=
  (goes_saveCandidate inside).bind fun _ saved =>
    ⟨in_readPlain saved.cursor, (saved.push tight_readPlain).tokens⟩

theorem goes_pushBlockScalar {fold : Bool} (inside : lexer.In s) :
    Goes s (lexer.pushBlockScalar fold) := by
  have same : ({ lexer with allowKey := true } : Lexer).In s :=
    ⟨inside.cursor, inside.tokens⟩
  refine (goes_dropCandidate same).bind fun lexer dropped => ?_
  refine (reads_readBlock dropped.cursor).bind fun (text, _) behind => ?_
  have pushed : (lexer.push (.scalar (String.ofList text) false)).In s :=
    dropped.push trivial
  exact ⟨behind, pushed.tokens⟩

theorem in_skipLayout {fuel : Nat} (inside : lexer.In s) :
    (lexer.skipLayout fuel).In s := by
  induction fuel generalizing lexer with
  | zero => exact inside
  | succ fuel induction =>
      unfold skipLayout
      extract_lets blanks place
      have there : place.In s := by
        dsimp only [place]
        split
        · exact inside.cursor.skipWhile.skipWhile
        · exact inside.cursor.skipWhile
      split
      · exact ⟨there, inside.tokens⟩
      · rename_i found
        have broken := there.lineBreak
        rw [found] at broken
        exact induction ⟨broken, inside.tokens⟩

theorem Goes.ite {condition : Prop} [Decidable condition]
    {first second : Except Fault Lexer} (yes : Goes s first)
    (no : Goes s second) : Goes s (if condition then first else second) := by
  split
  · exact yes
  · exact no

theorem goes_readToken {c : Char} (inside : lexer.In s) :
    Goes s (lexer.readToken c) := by
  have marker {token : Token} (tight : token.IsTight) :
      Goes s (lexer.leaveBlocks >>= fun left => pure (left.pushOver token 3)) :=
    (goes_leaveBlocks inside).bind fun _ left => left.pushOver tight
  have named {build : String → Token} (tight : ∀ name, (build name).IsTight)
      (place : Cursor)
      (there : place.In s) :
      ReadsToken s (readName place >>= fun name =>
        pure (build name.1, name.2)) :=
    (reads_readName there).bind fun _ read => ⟨tight _, read⟩
  -- The branches are those of the scanner, in its order: the first sign of a
  -- token decides which it is.
  unfold readToken
  extract_lets cursor spaced inFlow
  refine .ite ?directive <| .ite (marker trivial) <| .ite (marker trivial) ?_
  case directive =>
    exact (goes_leaveBlocks inside).bind fun _ left =>
      (reads_readDirective inside.cursor).bind fun _ read =>
        ⟨read.2, (left.push read.1).tokens⟩
  refine .ite (goes_openFlow inside trivial) <|
    .ite (goes_openFlow inside trivial) <|
    .ite (goes_closeFlow inside trivial) <|
    .ite (goes_closeFlow inside trivial) <|
    .ite (goes_flowEntry inside) ?_
  refine .ite (goes_blockEntry inside) <| .ite (goes_explicitKey inside) <|
    .ite (goes_keyValue inside) ?_
  refine .ite (goes_pushContent inside (named fun _ => trivial)) <|
    .ite (goes_pushContent inside (named fun _ => trivial)) <|
    .ite (goes_pushContent inside fun _ => reads_readTag) ?_
  refine .ite (goes_pushBlockScalar inside) <|
    .ite (goes_pushBlockScalar inside) <| .ite ?quoted <|
    .ite (goes_pushPlain inside) stops_malformed
  case quoted =>
    exact goes_pushContent inside fun _ there =>
      (reads_readQuoted there).bind fun _ read => ⟨trivial, read⟩

theorem goes_step (inside : lexer.In s) : Goes s lexer.step := by
  refine (goes_dropStale (in_skipLayout inside)).bind fun lexer dropped => ?_
  have closed : (lexer.unwind lexer.cursor.column).In s := in_unwind dropped
  dsimp only
  split
  · exact (goes_leaveBlocks closed).bind fun _ left => left.push trivial
  · exact goes_readToken closed

theorem run_keeps {fuel : Nat} (inside : lexer.In s) :
    (∀ token ∈ (lexer.run fuel).1, token.IsTight) ∧
      Stops s (lexer.run fuel).2 := by
  induction fuel generalizing lexer with
  | zero =>
      exact ⟨fun token member =>
        inside.tokens token (List.mem_reverse.mp member), stops_malformed⟩
  | succ fuel induction =>
      have goes := goes_step inside
      unfold run
      split
      · rename_i found
        rw [found] at goes
        exact ⟨fun token member =>
          inside.tokens token
            (List.mem_reverse.mp (List.mem_of_mem_take member)), goes⟩
      · rename_i next found
        rw [found] at goes
        split
        · exact ⟨fun token member =>
            goes.tokens token (List.mem_reverse.mp member), stops_malformed⟩
        · exact induction goes

theorem in_start : (start s).In s := by
  have front : (Cursor.start s).In s := List.suffix_refl s
  refine ⟨?_, List.forall_mem_nil _⟩
  unfold start
  dsimp only
  split
  · exact front.next
  · exact front

end Lexer

/-- The texts of plain scalars among the tokens of a text have no line breaks at
their ends. The tokens end with a fault that no check raises only behind an
escape that is too large. -/
theorem tokens_keep (text : String) :
    (∀ token ∈ (tokens text).1, token.IsTight) ∧
      Stops text.toList (tokens text).2 := by
  unfold tokens
  dsimp only
  split
  · exact Lexer.run_keeps Lexer.in_start
  · exact ⟨List.forall_mem_nil _, stops_malformed⟩

end PageFlow.Yaml
