import Mathlib.Data.List.TakeWhile
import PageFlow.Locator
import PageFlow.Proofs.Splitting

/-!
# String expressions of locators

An element is looked up by its text with an XPath expression that has the text
as a string argument. XPath 1.0 has no escapes: a literal ends at the next quote
of its kind. The grammar of string expressions and a reader of them are given
here apart from the locators, and every locator by text holds an expression of
the grammar that is read back as the text.
-/

namespace PageFlow.Locator

/-! ## The grammar -/

/-- A string literal: a body in quotes of a kind that does not occur in it. -/
structure Literal where
  mark : Char
  body : List Char
  quotes : mark = '"' ∨ mark = '\''
  closed : mark ∉ body

/-- A string expression: one literal, or at least two literals that are put
together. -/
inductive Expression where
  | literal (literal : Literal)
  | concat (first second : Literal) (rest : List Literal)

def Literal.source (part : Literal) : List Char :=
  literal part.mark part.body

/-- What an expression of several literals begins with. -/
def concatMark : List Char := ['c', 'o', 'n', 'c', 'a', 't', '(']

/-- How an expression is written. -/
def Expression.source : Expression → List Char
  | .literal part => part.source
  | .concat first second rest =>
    concatMark ++ joinArguments
      ((first :: second :: rest).map Literal.source) ++ [')']

/-- The text that an expression denotes. -/
def Expression.value : Expression → List Char
  | .literal part => part.body
  | .concat first second rest => (first :: second :: rest).flatMap Literal.body

/-! ## Reading -/

/-- What may stand between the tokens of an expression. -/
def isGap (c : Char) : Bool :=
  c == ' ' || c == '\t' || c == '\n' || c == '\r'

/-- A literal at the front of a text, up to the next quote of its kind, and what
follows. -/
def readLiteral : List Char → Option (List Char × List Char)
  | [] => none
  | mark :: s =>
    if mark = '"' ∨ mark = '\'' then
      match s.dropWhile (· != mark) with
      | [] => none
      | _ :: after => some (s.takeWhile (· != mark), after)
    else none

theorem length_lt_of_readLiteral {s body after : List Char}
    (found : readLiteral s = some (body, after)) : after.length < s.length := by
  cases s with
  | nil => cases found
  | cons mark s =>
      rw [readLiteral] at found
      split at found
      · split at found
        · cases found
        · rename_i quote dropped
          cases found
          have shorter := (List.dropWhile_suffix (· != mark) (l := s)).length_le
          rw [dropped] at shorter
          simp only [List.length_cons] at shorter ⊢
          omega
      · cases found

/-- The arguments behind the first one, up to the closing parenthesis, and what
follows. -/
def readArguments (s : List Char) : Option (List (List Char) × List Char) :=
  match _begun : s.dropWhile isGap with
  | ')' :: after => some ([], after)
  | ',' :: next =>
    match _found : readLiteral (next.dropWhile isGap) with
    | some (body, after) =>
      (readArguments after).map fun (bodies, rest) => (body :: bodies, rest)
    | none => none
  | _ => none
termination_by s.length
decreasing_by
  have literal := length_lt_of_readLiteral _found
  have gap := (List.dropWhile_suffix isGap (l := next)).length_le
  have before := (List.dropWhile_suffix isGap (l := s)).length_le
  rw [_begun, List.length_cons] at before
  omega

/-- The text of the string expression at the front of a text, and what follows
it. Fewer than two arguments are no `concat`. -/
def readExpression (s : List Char) : Option (List Char × List Char) :=
  if concatMark.isPrefixOf s then
    match readLiteral ((s.drop concatMark.length).dropWhile isGap) with
    | none => none
    | some (first, after) =>
      match readArguments after with
      | some (second :: bodies, rest) =>
          some (first ++ second ++ bodies.flatten, rest)
      | _ => none
  else readLiteral s

theorem readLiteral_source (part : Literal) (rest : List Char) :
    readLiteral (part.source ++ rest) = some (part.body, rest) := by
  have free : ∀ c ∈ part.body, (c != part.mark) = true := by
    intro c member
    simpa using fun same : c = part.mark => part.closed (same ▸ member)
  have written :
      part.source ++ rest = part.mark :: (part.body ++ part.mark :: rest) := by
    simp [Literal.source, literal]
  rw [written, readLiteral, if_pos part.quotes,
    List.dropWhile_append_of_pos free, List.takeWhile_append_of_pos free]
  simp

theorem dropWhile_source (part : Literal) (rest : List Char) :
    (part.source ++ rest).dropWhile isGap = part.source ++ rest := by
  rcases part.quotes with double | single
  · simp [Literal.source, literal, double, isGap]
  · simp [Literal.source, literal, single, isGap]

theorem joinArguments_cons (first : List Char) (rest : List (List Char)) :
    joinArguments (first :: rest) = first ++ rest.flatMap fun argument =>
      ',' :: ' ' :: argument := by
  induction rest generalizing first with
  | nil => simp [joinArguments]
  | cons second rest induction =>
      rw [joinArguments, induction]
      · simp
      · simp

theorem readArguments_close (rest : List Char) :
    readArguments (')' :: rest) = some ([], rest) := by
  have begun : (')' :: rest).dropWhile isGap = ')' :: rest := by simp [isGap]
  rw [readArguments]
  split
  · rename_i after same
    rw [begun] at same
    cases same
    rfl
  · rename_i next same
    rw [begun] at same
    cases same
  · rename_i other _
    exact (other rest begun).elim

theorem readArguments_next (part : Literal) (rest : List Char) :
    readArguments (',' :: ' ' :: (part.source ++ rest)) =
      (readArguments rest).map fun (bodies, after) =>
        (part.body :: bodies, after) := by
  have begun : (',' :: ' ' :: (part.source ++ rest)).dropWhile isGap =
      ',' :: ' ' :: (part.source ++ rest) := by
    simp [isGap]
  have literal : readLiteral ((' ' :: (part.source ++ rest)).dropWhile isGap) =
      some (part.body, rest) := by
    rw [List.dropWhile_cons_of_pos (by simp [isGap]), dropWhile_source,
      readLiteral_source]
  rw [readArguments]
  split
  · rename_i after same
    rw [begun] at same
    cases same
  · rename_i next same
    rw [begun] at same
    cases same
    split
    · rename_i body after found
      rw [literal] at found
      cases found
      rfl
    · rename_i missing
      rw [literal] at missing
      cases missing
  · rename_i other
    exact (other _ begun).elim

theorem readArguments_source (parts : List Literal) (rest : List Char) :
    readArguments ((parts.map Literal.source).flatMap
        (fun argument => ',' :: ' ' :: argument) ++
      ')' :: rest) = some (parts.map Literal.body, rest) := by
  induction parts with
  | nil => exact readArguments_close rest
  | cons part parts induction =>
      simp only [List.map_cons, List.flatMap_cons, List.cons_append,
        List.append_assoc]
      rw [readArguments_next, induction]
      rfl

theorem readExpression_concat (first : Literal) (next : List Char) :
    readExpression (concatMark ++ (first.source ++ next)) =
      match readArguments next with
      | some (second :: bodies, rest) =>
          some (first.body ++ second ++ bodies.flatten, rest)
      | _ => none := by
  have begins :
      concatMark.isPrefixOf (concatMark ++ (first.source ++ next)) = true := by
    simp
  rw [readExpression, if_pos begins, List.drop_left, dropWhile_source,
    readLiteral_source]

theorem readExpression_source (expression : Expression) (rest : List Char) :
    readExpression (expression.source ++ rest) =
      some (expression.value, rest) := by
  cases expression with
  | literal part =>
      have begins : ¬ concatMark.isPrefixOf (part.source ++ rest) = true := by
        rcases part.quotes with double | single
        · simp [concatMark, Literal.source, literal, double]
        · simp [concatMark, Literal.source, literal, single]
      rw [readExpression, Expression.source, if_neg begins]
      exact readLiteral_source part rest
  | concat first second later =>
      have written : (Expression.concat first second later).source ++ rest =
          concatMark ++
              (first.source ++ (((second :: later).map Literal.source).flatMap
            (fun argument => ',' :: ' ' :: argument) ++ ')' :: rest)) := by
        simp [Expression.source, joinArguments_cons, concatMark]
      rw [written, readExpression_concat, readArguments_source]
      simp [Expression.value, List.flatMap]

/-! ## Texts as expressions -/

/-- Parts without double quotes are literals, and so is the double quote between
any two of them. -/
theorem exists_literals {parts : List (List Char)}
    (free : ∀ part ∈ parts, '"' ∉ part) :
    ∃ literals : List Literal,
      concatArguments parts = literals.map Literal.source ∧
      literals.flatMap Literal.body = ['"'].intercalate parts ∧
        parts.length ≤ literals.length := by
  induction parts with
  | nil => exact ⟨[], by simp [concatArguments]⟩
  | cons part parts induction =>
      obtain ⟨here, later⟩ := List.forall_mem_cons.mp free
      let first : Literal := ⟨'"', part, .inl rfl, here⟩
      let quote : Literal := ⟨'\'', ['"'], .inr rfl, by decide⟩
      obtain ⟨literals, sources, bodies, count⟩ := induction later
      cases parts with
      | nil => exact ⟨[first], by simp [concatArguments, Literal.source, first]⟩
      | cons next parts =>
          refine ⟨first :: quote :: literals, ?_, ?_, ?_⟩
          · rw [concatArguments, sources]
            · simp [Literal.source, first, quote]
            · simp
          · rw [List.intercalate_cons_cons, ← bodies]
            simp [first, quote]
          · simp only [List.length_cons] at count ⊢
            omega

/-- The expression for a text is one of the grammar, and it denotes the text. -/
theorem exists_expression (s : List Char) :
    ∃ expression : Expression,
      stringExpression s = expression.source ∧ expression.value = s := by
  unfold stringExpression
  split
  · rename_i free
    exact ⟨.literal ⟨'"', s, .inl rfl, free⟩, rfl, rfl⟩
  · rename_i quoted
    split
    · rename_i free
      exact ⟨.literal ⟨'\'', s, .inr rfl, free⟩, rfl, rfl⟩
    · have clean : ∀ part ∈ s.splitOn '"', '"' ∉ part :=
        fun part => Text.notMem_of_mem_splitOn
      obtain ⟨literals, sources, bodies, count⟩ := exists_literals clean
      have several : 2 ≤ literals.length := by
        have cuts := @Text.length_splitOn '"' s
        have occurs := List.count_pos_iff.mpr (not_not.mp quoted)
        omega
      match literals, several with
      | first :: second :: rest, _ =>
          refine ⟨.concat first second rest, ?_, ?_⟩
          · rw [sources]
            rfl
          · rw [Expression.value, bodies, List.intercalate_splitOn]

/-! ## Locators -/

theorem ofSelector_of_text (text : String) :
    ofSelector ("text=" ++ text) = "xpath=//*[contains(text()," ++
      String.ofList (stringExpression text.toList) ++ ")]" := by
  have chars : ("text=" ++ text).toList = textMark ++ text.toList :=
    String.toList_append
  have begins : textMark.isPrefixOf (textMark ++ text.toList) = true := by simp
  rw [ofSelector, chars, if_pos begins, List.drop_left]
  apply String.toList_injective
  simp

theorem ofSelector_of_other {selector : String}
    (other : ¬ textMark <+: selector.toList) :
    ofSelector selector = selector := by
  rw [ofSelector]
  apply if_neg
  simpa using other

theorem not_textMark_ofSelector (selector : String) :
    ¬ textMark <+: (ofSelector selector).toList := by
  by_cases marked : textMark <+: selector.toList
  · obtain ⟨text, whole⟩ := marked
    have written : selector = "text=" ++ String.ofList text := by
      apply String.toList_injective
      rw [← whole]
      simp [textMark]
    rw [written, ofSelector_of_text]
    simp [textMark]
  · rwa [ofSelector_of_other marked]

/-- The locator of a text holds one string expression that denotes the text, and
the expression ends where its reader stops. Distinct texts have distinct
locators. A locator is its own locator, and exactly the selectors that are not
by text are locators already. -/
theorem text_locator_denotes (text other selector : String) :
    (∃ expression : Expression,
      ofSelector ("text=" ++ text) = "xpath=//*[contains(text()," ++
        String.ofList expression.source ++ ")]" ∧
      String.ofList expression.value = text ∧
      ∀ rest, readExpression (expression.source ++ rest) =
        some (expression.value, rest)) ∧
    (ofSelector ("text=" ++ text) = ofSelector ("text=" ++ other) ↔
      text = other) ∧
    ofSelector (ofSelector selector) = ofSelector selector ∧
    (ofSelector selector = selector ↔
      ¬ "text=".toList <+: selector.toList) := by
  refine ⟨?_, ?_, ?_, ?_⟩
  · obtain ⟨expression, written, value⟩ := exists_expression text.toList
    refine ⟨expression, ?_, ?_, readExpression_source expression⟩
    · rw [ofSelector_of_text, written]
    · rw [value, String.ofList_toList]
  · constructor
    · intro same
      obtain ⟨first, firstWritten, firstValue⟩ := exists_expression text.toList
      obtain ⟨second, secondWritten, secondValue⟩ :=
        exists_expression other.toList
      rw [ofSelector_of_text, ofSelector_of_text, firstWritten,
        secondWritten] at same
      have sources : first.source = second.source := by
        simpa using congrArg String.toList same
      have firstRead := readExpression_source first []
      rw [sources, readExpression_source second []] at firstRead
      apply String.toList_injective
      rw [← firstValue, ← secondValue]
      exact (congrArg Prod.fst (Option.some.inj firstRead)).symm
    · intro same
      rw [same]
  · exact ofSelector_of_other (not_textMark_ofSelector selector)
  · constructor
    · intro kept
      rw [← kept]
      exact not_textMark_ofSelector selector
    · exact ofSelector_of_other

/-- A text with quotes of both kinds. -/
example : ofSelector "text=5\" o'clock" =
    "xpath=//*[contains(text(),concat(\"5\", '\"', \" o'clock\"))]" := by
  decide +kernel

end PageFlow.Locator
