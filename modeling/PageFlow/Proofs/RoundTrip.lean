import PageFlow.Proofs.Quoting

/-!
# Documents that are written and read

A document is read back from its text over several lines, in either charset, if
its numbers are integers that the limit on digits allows and no object in it
names a member twice. All lemmas leave open what follows, so that the text of a
document is put together from those of its parts.
-/

namespace PageFlow.Json

open PageFlow.Decimal PageFlow.Text

variable {charset : Charset} {limit : Nat}

/-! ## Texts -/

theorem hexValue_hexDigit (n : Nat) :
    hexValue? (hexDigit (n % 16)) = some (n % 16) := by
  have each : ∀ d < 16, hexValue? (hexDigit d) = some d := by decide
  exact each _ (Nat.mod_lt n (by decide))

theorem unitEscape_eq (unit : Nat) : unitEscape unit =
    ['\\', 'u', hexDigit (unit / 16 / 16 / 16 % 16),
      hexDigit (unit / 16 / 16 % 16), hexDigit (unit / 16 % 16),
      hexDigit (unit % 16)] :=
  rfl

/-- An escape by code unit is read as that unit; it must not be the last thing
in the input. -/
theorem readUnits_unitEscape {unit : Nat} (small : unit < 0x10000) (start : Nat)
    {after : List Char} (more : after ≠ []) :
    readUnits start (unitEscape unit ++ after) =
      (readUnits start after).map (consRead (.code unit)) := by
  obtain ⟨next, rest, rfl⟩ := List.exists_cons_of_ne_nil more
  have value :
      unit? (hexDigit (unit / 16 / 16 / 16 % 16))
        (hexDigit (unit / 16 / 16 % 16))
      (hexDigit (unit / 16 % 16)) (hexDigit (unit % 16)) = some unit := by
    simp only [unit?, hexValue_hexDigit, bind, Option.bind, pure]
    congr 1
    omega
  rw [unitEscape_eq]
  simp only [List.cons_append, List.nil_append, readUnits, value]

theorem joinUnits_code {unit : Nat} (whole : ¬ (0xd800 ≤ unit ∧ unit < 0xe000))
    (later : List TextUnit) :
    joinUnits (.code unit :: later) = Char.ofNat unit :: joinUnits later := by
  have single : unitChar unit = Char.ofNat unit := if_neg whole
  cases later with
  | nil => simp only [joinUnits, single]
  | cons part later =>
      cases part with
      | char c => simp only [joinUnits, single]
      | code low => rw [joinUnits, if_neg (by omega), single]

theorem scalar_toNat (c : Char) :
    ¬ (0xd800 ≤ c.toNat ∧ c.toNat < 0xe000) ∧ c.toNat < 0x110000 := by
  have valid := c.valid
  simp only [UInt32.isValidChar, Nat.isValidChar] at valid
  have same : c.toNat = c.val.toNat := rfl
  omega

theorem joinUnits_pair {c : Char} (wide : 0x10000 ≤ c.toNat)
    (later : List TextUnit) :
    joinUnits (.code (0xd800 + (c.toNat - 0x10000) / 0x400) :: .code
      (0xdc00 + (c.toNat - 0x10000) % 0x400) :: later) =
      c :: joinUnits later := by
  have most := (scalar_toNat c).2
  have same :
      pairChar (0xd800 + (c.toNat - 0x10000) / 0x400)
        (0xdc00 + (c.toNat - 0x10000) % 0x400) = c := by
    rw [pairChar,
      show 0x10000 + (0xd800 + (c.toNat - 0x10000) / 0x400 - 0xd800) * 0x400 +
      (0xdc00 + (c.toNat - 0x10000) % 0x400 - 0xdc00) = c.toNat by
      omega, Char.ofNat_toNat]
  rw [joinUnits, if_pos (by omega), same]

/-- What is written for a character is read as parts that stand for it, whatever
follows. -/
def Spells (written : List Char) (c : Char) : Prop :=
  ∃ units : List TextUnit,
    (∀ start after, after ≠ [] → readUnits start (written ++ after) =
      (readUnits start after).map fun read => (units ++ read.1, read.2)) ∧
    ∀ later, joinUnits (units ++ later) = c :: joinUnits later

theorem spells_short {letter c : Char} (short : shortEscape? letter = some c) :
    Spells ['\\', letter] c := by
  refine ⟨[.char c], fun start after _ => ?_, fun later => rfl⟩
  have other : letter ≠ 'u' := by
    rintro rfl
    cases short
  have read : readUnits start ('\\' :: letter :: after) =
      (readUnits start after).map (consRead (.char c)) := by
    simp [readUnits, short, other]
  exact read

theorem spells_code {c : Char} (small : c.toNat < 0x10000) :
    Spells (unitEscape c.toNat) c := by
  refine ⟨[.code c.toNat],
    fun start after more => readUnits_unitEscape small start more,
    fun later => ?_⟩
  have joined := joinUnits_code (scalar_toNat c).1 later
  rwa [Char.ofNat_toNat] at joined

theorem spells_pair {c : Char} (wide : 0x10000 ≤ c.toNat) :
    Spells (unitEscape (0xd800 + (c.toNat - 0x10000) / 0x400) ++
      unitEscape (0xdc00 + (c.toNat - 0x10000) % 0x400)) c := by
  have most := (scalar_toNat c).2
  refine ⟨[.code _, .code _], fun start after more => ?_, joinUnits_pair wide⟩
  rw [List.append_assoc,
    readUnits_unitEscape (by omega) start (by simp [unitEscape]),
    readUnits_unitEscape (by omega) start more]
  cases readUnits start after <;> rfl

theorem spells_plain {c : Char} (quote : c ≠ '"') (slash : c ≠ '\\')
    (shown : ¬ c.toNat < 0x20) : Spells [c] c := by
  refine ⟨[.char c], fun start after _ => ?_, fun later => rfl⟩
  have read :
      readUnits start (c :: after) =
        (readUnits start after).map (consRead (.char c)) := by
    simp [readUnits, slash, shown]
  exact read

/-- The ways to write a character: by a short escape, by one or two code units,
or as it is. -/
inductive Writes (c : Char) : List Char → Prop where
  | short {letter : Char} : shortEscape? letter = some c →
    Writes c ['\\', letter]
  | code : c.toNat < 0x10000 → Writes c (unitEscape c.toNat)
  | pair : 0x10000 ≤ c.toNat →
    Writes c (unitEscape (0xd800 + (c.toNat - 0x10000) / 0x400) ++
      unitEscape (0xdc00 + (c.toNat - 0x10000) % 0x400))
  | plain : c ≠ '"' → c ≠ '\\' → ¬ c.toNat < 0x20 → Writes c [c]

theorem writes_escapeChar (charset : Charset) (c : Char) :
    Writes c (escapeChar charset c) := by
  unfold escapeChar
  split
  · subst c
    exact .short rfl
  split
  · subst c
    exact .short rfl
  split
  · subst c
    exact .short rfl
  split
  · subst c
    exact .short rfl
  split
  · subst c
    exact .short rfl
  split
  · rename_i feed
    rw [← Char.ofNat_toNat c, feed]
    exact .short rfl
  split
  · rename_i back
    rw [← Char.ofNat_toNat c, back]
    exact .short rfl
  split
  · exact .code (by omega)
  rename_i quote slash _ _ _ _ _ shown
  cases charset with
  | unicode => exact .plain quote slash shown
  | ascii =>
      dsimp only
      split
      · exact .plain quote slash shown
      · split
        · exact .code ‹_›
        · exact .pair (by omega)

theorem Writes.spells {c : Char} {written : List Char}
    (writes : Writes c written) : Spells written c := by
  cases writes with
  | short escape => exact spells_short escape
  | code small => exact spells_code small
  | pair wide => exact spells_pair wide
  | plain quote slash shown => exact spells_plain quote slash shown

theorem readText_textChars (charset : Charset) (s : List Char) (start : Nat)
    (after : List Char) :
    readText start (s.flatMap (escapeChar charset) ++ '"' :: after) =
      .ok (s, after) := by
  have units : ∃ units,
      readUnits start (s.flatMap (escapeChar charset) ++ '"' :: after) =
      .ok (units, after) ∧ joinUnits units = s := by
    induction s with
    | nil => exact ⟨[], by simp [readUnits], rfl⟩
    | cons c s induction =>
        obtain ⟨later, read, joined⟩ := induction
        obtain ⟨own, spelled, stands⟩ := (writes_escapeChar charset c).spells
        refine ⟨own ++ later, ?_, by rw [stands, joined]⟩
        rw [List.flatMap_cons, List.append_assoc, spelled _ _ (by simp), read]
        rfl
  obtain ⟨units, read, joined⟩ := units
  rw [readText, read, ← joined]
  rfl

/-! ## Integers -/

/-- What follows does not continue an integer. -/
def EndsNumber (after : List Char) : Prop :=
  ∀ c ∈ after.head?, ¬ c.isDigit ∧ c ≠ '.' ∧ c ≠ 'e' ∧ c ≠ 'E'

theorem isDigit_natDigits {n : Nat} : ∀ c ∈ natDigits n, c.isDigit :=
  fun _ member => Nat.isDigit_of_mem_toDigits (by decide) (by decide) member

theorem digitsValue_natDigits (n : Nat) : digitsValue (natDigits n) = n :=
  Nat.ofDigitChars_toDigits (by decide) (by decide)

theorem exists_natDigits (n : Nat) :
    ∃ c digits, natDigits n = c :: digits ∧ c.isDigit := by
  have some : natDigits n ≠ [] := Nat.toDigits_ne_nil
  obtain ⟨c, digits, spelled⟩ := List.exists_cons_of_ne_nil some
  exact ⟨c, digits, spelled, isDigit_natDigits c (spelled ▸ List.mem_cons_self)⟩

theorem eq_nil_of_natDigits {n : Nat} {rest : List Char}
    (zero : natDigits n = '0' :: rest) : rest = [] := by
  by_contra more
  have decimal : ∀ c ∈ rest, c.isDigit := fun c member =>
    isDigit_natDigits (n := n) c (zero ▸ List.mem_cons_of_mem _ member)
  have value : digitsValue rest = n := by
    rw [← digitsValue_natDigits n, zero]
    rfl
  have few : (natDigits n).length ≤ rest.length :=
    (Nat.length_toDigits_le_iff (by decide) (List.length_pos_iff.mpr more)).mpr
      (value ▸ digitsValue_lt decimal)
  rw [zero, List.length_cons] at few
  omega

theorem splitDigits_append {digits after : List Char}
    (decimal : ∀ c ∈ digits, c.isDigit) (ends : EndsNumber after) :
    splitDigits (digits ++ after) = (digits, after) := by
  have none : after.takeWhile Char.isDigit = [] ∧
      after.dropWhile Char.isDigit = after := by
    cases after with
    | nil => exact ⟨rfl, rfl⟩
    | cons c after =>
        have other := (ends c rfl).1
        exact ⟨List.takeWhile_cons_of_neg other,
          List.dropWhile_cons_of_neg other⟩
  rw [splitDigits, List.takeWhile_append_of_pos decimal,
    List.dropWhile_append_of_pos decimal, none.1, none.2, List.append_nil]

theorem splitWhole_natDigits {after : List Char} (n : Nat)
    (ends : EndsNumber after) :
    splitWhole (natDigits n ++ after) = (natDigits n, after) := by
  unfold splitWhole
  split
  · rename_i rest zero
    obtain ⟨c, digits, spelled, _⟩ := exists_natDigits n
    rw [spelled, List.cons_append] at zero
    obtain ⟨rfl, rfl⟩ := List.cons.inj zero
    obtain rfl := eq_nil_of_natDigits spelled
    rw [spelled]
    rfl
  · exact splitDigits_append isDigit_natDigits ends

theorem splitFraction_of_ends {after : List Char} (ends : EndsNumber after) :
    splitFraction after = (none, after) := by
  unfold splitFraction
  split
  · exact absurd rfl (ends '.' rfl).2.1
  · rfl

theorem splitExponent_of_ends {after : List Char} (ends : EndsNumber after) :
    splitExponent after = (none, after) := by
  cases after with
  | nil => rfl
  | cons c after =>
      obtain ⟨_, _, lower, upper⟩ := ends c rfl
      simp [splitExponent, lower, upper]

/-- An integer has no more digits than a limit allows. -/
def HasFewDigits (limit : Nat) (n : Int) : Prop :=
  allows limit (natDigits n.natAbs).length

instance (limit : Nat) (n : Int) : Decidable (HasFewDigits limit n) :=
  inferInstanceAs (Decidable (allows limit (natDigits n.natAbs).length = true))

theorem readNumber_natDigits {n : Nat} {after : List Char} (negative : Bool)
    (few : allows limit (natDigits n).length) (ends : EndsNumber after) :
    readNumber? limit negative (natDigits n ++ after) =
      .ok (some (.int (if negative then -(n : Int) else n), after)) := by
  obtain ⟨c, digits, spelled, _⟩ := exists_natDigits n
  rw [readNumber?, splitWhole_natDigits n ends]
  split
  · rename_i same
    exact absurd (spelled.symm.trans (Prod.mk.inj same).1)
      (List.cons_ne_nil _ _)
  · rename_i same
    obtain ⟨rfl, rfl⟩ := Prod.mk.inj same
    rw [splitFraction_of_ends ends]
    dsimp only
    rw [splitExponent_of_ends ends]
    dsimp only
    rw [if_pos few, digitsValue_natDigits]

theorem readScalar_digit {c : Char} (decimal : c.isDigit) (rest : List Char) :
    readScalar limit (c :: rest) = readScalar.number limit (c :: rest) false
      (c :: rest) := by
  unfold readScalar
  split
  case h_7 => rfl
  all_goals
    rename_i same
    obtain ⟨rfl, rfl⟩ := List.cons.inj same
    exact absurd decimal (by decide)

theorem exists_intText (n : Int) :
    ∃ c rest, (intText n).toList = c :: rest ∧ (c = '-' ∨ c.isDigit) := by
  obtain ⟨c, digits, spelled, decimal⟩ := exists_natDigits n.natAbs
  rw [intText]
  split
  · exact ⟨'-', natDigits n.natAbs, by simp, .inl rfl⟩
  · exact ⟨c, digits, by simp [spelled], .inr decimal⟩

theorem readScalar_intText {n : Int} {after : List Char}
    (few : HasFewDigits limit n) (ends : EndsNumber after) :
    readScalar limit ((intText n).toList ++ after) = .ok (.int n, after) := by
  have number (negative : Bool) := readNumber_natDigits negative few ends
  obtain ⟨c, digits, spelled, decimal⟩ := exists_natDigits n.natAbs
  rw [spelled, List.cons_append] at number
  by_cases negative : n < 0
  · have text :
        (intText n).toList ++ after = '-' :: c :: (digits ++ after) := by
      simp [intText, negative, spelled]
    have word :
        afterWord? "Infinity".toList (c :: (digits ++ after)) = none := by
      have other : c ≠ 'I' := by
        rintro rfl
        exact absurd decimal (by decide)
      simp [afterWord?, other.symm]
    have value : -(n.natAbs : Int) = n := by omega
    rw [text, readScalar, word, readScalar.number, number true, if_pos rfl,
      value]
  · have text : (intText n).toList ++ after = c :: (digits ++ after) := by
      simp [intText, negative, spelled]
    have value : (n.natAbs : Int) = n := by omega
    rw [text, readScalar_digit decimal, readScalar.number, number false,
      if_neg Bool.false_ne_true, value]

theorem readValue_intText {n : Int} {after : List Char}
    (few : HasFewDigits limit n) (ends : EndsNumber after) (fuel : Nat) :
    readValue limit (fuel + 1) ((intText n).toList ++ after) =
      .ok (.int n, after) := by
  rw [← readScalar_intText few ends]
  obtain ⟨c, rest, spelled, sort⟩ := exists_intText n
  rw [spelled, List.cons_append]
  have different (other : Char) (foreign : other ≠ '-' ∧ ¬ other.isDigit) :
      c ≠ other := by
    rintro rfl
    exact sort.elim foreign.1 foreign.2
  rw [readValue]
  · intro _ same
    exact different '"' (by decide) (List.cons.inj same).1
  · intro _ same
    exact different '[' (by decide) (List.cons.inj same).1
  · intro _ same
    exact different '{' (by decide) (List.cons.inj same).1

/-! ## Documents -/

/-- A document whose numbers are integers that a limit allows, and in which no
object names a member twice. -/
inductive Plain (limit : Nat) : Json → Prop where
  | null : Plain limit .null
  | bool (b : Bool) : Plain limit (.bool b)
  | int {n : Int} : HasFewDigits limit n → Plain limit (.int n)
  | text (s : String) : Plain limit (.text s)
  | array {items : List Json} : (∀ item ∈ items, Plain limit item) →
    Plain limit (.array items)
  | object {members : List (String × Json)} : (members.map Prod.fst).Nodup →
      (∀ member ∈ members, Plain limit member.2) → Plain limit (.object members)

/-- A document is read back from its text, if what follows does not continue a
number. -/
def ReadsBack (limit : Nat) (charset : Charset) (document : Json) : Prop :=
  ∀ level fuel after,
    EndsNumber after → (blockChars charset level document).length < fuel →
    readValue limit fuel (blockChars charset level document ++ after) =
      .ok (document, after)

/-- The first character of a text is no layout, no end of a collection and no
byte order mark. -/
def Begins (s : List Char) : Prop :=
  ∃ c rest,
    s = c :: rest ∧ ¬ isLayout c ∧ c ≠ ']' ∧ c ≠ '}' ∧ c ≠ Char.ofNat 0xfeff

theorem Begins.append {s : List Char} (begins : Begins s) (after : List Char) :
    Begins (s ++ after) := by
  obtain ⟨c, rest, rfl, others⟩ := begins
  exact ⟨c, rest ++ after, rfl, others⟩

theorem Begins.skipLayout {s : List Char} (begins : Begins s) :
    skipLayout s = s := by
  obtain ⟨c, rest, rfl, shown, _⟩ := begins
  exact List.dropWhile_cons_of_neg shown

theorem skipLayout_newline (level : Nat) (s : List Char) :
    skipLayout (newline level ++ s) = skipLayout s := by
  have layout : ∀ c ∈ newline level, isLayout c := by
    intro c member
    rcases List.mem_cons.mp member with rfl | blank
    · rfl
    · rw [List.eq_of_mem_replicate blank]
      rfl
  exact List.dropWhile_append_of_pos layout

theorem Plain.begins {document : Json} (plain : Plain limit document)
    (level : Nat) :
    Begins (blockChars charset level document) := by
  cases plain with
  | null => exact ⟨_, _, rfl, by decide⟩
  | bool b => cases b <;> exact ⟨_, _, rfl, by decide⟩
  | @int n _ =>
      obtain ⟨c, rest, spelled, sort⟩ := exists_intText n
      have different (other : Char) (foreign : other ≠ '-' ∧ ¬ other.isDigit) :
          c ≠ other := by
        rintro rfl
        exact sort.elim foreign.1 foreign.2
      refine ⟨c, rest, spelled, ?_, different _ (by decide),
        different _ (by decide), different _ (by decide)⟩
      simp [isLayout, different]
  | text s => exact ⟨_, _, rfl, by decide⟩
  | @array items _ => cases items <;> exact ⟨_, _, rfl, by decide⟩
  | @object members _ _ => cases members <;> exact ⟨_, _, rfl, by decide⟩

theorem blockItems_cons {items : List Json} (some : items ≠ []) (level : Nat)
    (item : Json) :
    blockItems charset level (item :: items) =
      blockChars charset level item ++
        ',' :: (newline level ++ blockItems charset level items) := by
  rw [blockItems]
  · simp
  · exact some

theorem blockMembers_cons {members : List (String × Json)} (some : members ≠ [])
    (level : Nat) (name : String) (value : Json) :
    blockMembers charset level ((name, value) :: members) =
      textChars charset name ++ ':' :: ' ' :: (blockChars charset level value ++
        ',' :: (newline level ++ blockMembers charset level members)) := by
  rw [blockMembers]
  · simp
  · exact some

theorem begins_blockItems {items : List Json} (some : items ≠ [])
    (plain : ∀ item ∈ items, Plain limit item) (level : Nat) :
    Begins (blockItems charset level items) := by
  cases items with
  | nil => exact absurd rfl some
  | cons item items =>
      have begins : Begins (blockChars charset level item) :=
        (plain item List.mem_cons_self).begins level
      by_cases last : items = []
      · subst last
        exact begins
      · rw [blockItems_cons last]
        exact begins.append _

theorem begins_blockMembers {members : List (String × Json)}
    (some : members ≠ []) (level : Nat) :
    Begins (blockMembers charset level members) := by
  cases members with
  | nil => exact absurd rfl some
  | cons member members =>
      by_cases last : members = []
      · subst last
        exact ⟨_, _, rfl, by decide⟩
      · rw [blockMembers_cons last]
        exact ⟨_, _, rfl, by decide⟩

theorem insertMember_of_notMem {members : List (String × Json)} {name : String}
    {value : Json} (new : name ∉ members.map Prod.fst) :
    insertMember members name value = members ++ [(name, value)] := by
  induction members with
  | nil => rfl
  | cons member members induction =>
      rw [List.map_cons, List.mem_cons, not_or] at new
      rw [insertMember, if_neg (Ne.symm new.1), induction new.2]
      rfl

theorem endsNumber_newline (level : Nat) (after : List Char) :
    EndsNumber (newline level ++ after) := by
  rintro _ ⟨rfl⟩
  decide

theorem endsNumber_comma (after : List Char) : EndsNumber (',' :: after) := by
  rintro _ ⟨rfl⟩
  decide

theorem textChars_append (s : String) (after : List Char) :
    textChars charset s ++ after =
    '"' :: (s.toList.flatMap (escapeChar charset) ++ '"' :: after) := by
  simp [textChars]

section Steps

variable {fuel : Nat} {s rest more after : List Char} {item value : Json}
  {items : List Json} {name : String} {before members : List (String × Json)}

theorem readValue_textChars (text : String) :
    readValue limit (fuel + 1) (textChars charset text ++ after) =
      .ok (.text text, after) := by
  rw [textChars_append, readValue, readText_textChars]
  simp only [bind, Except.bind, pure, Except.pure, String.ofList_toList]

theorem readValue_array (begins : Begins (skipLayout s))
    (read : readItems limit fuel (skipLayout s) = .ok (items, after)) :
    readValue limit (fuel + 1) ('[' :: s) = .ok (.array items, after) := by
  obtain ⟨c, more, same, _, other, _, _⟩ := begins
  rw [readValue]
  split
  · rename_i closed
    rw [closed] at same
    exact absurd (List.cons.inj same).1.symm other
  · simp only [read, bind, Except.bind, pure, Except.pure]

theorem readValue_object (begins : Begins (skipLayout s))
    (read : readMembers limit fuel [] (skipLayout s) = .ok (members, after)) :
    readValue limit (fuel + 1) ('{' :: s) = .ok (.object members, after) := by
  obtain ⟨c, more, same, _, _, other, _⟩ := begins
  rw [readValue]
  split
  · rename_i closed
    rw [closed] at same
    exact absurd (List.cons.inj same).1.symm other
  · simp only [read, bind, Except.bind, pure, Except.pure]

theorem readItems_last (first : readValue limit fuel s = .ok (item, rest))
    (closes : skipLayout rest = ']' :: after) :
    readItems limit (fuel + 1) s = .ok ([item], after) := by
  simp only [readItems, first, bind, Except.bind, closes, pure, Except.pure]

theorem readItems_next (first : readValue limit fuel s = .ok (item, rest))
    (comma : skipLayout rest = ',' :: more)
    (later : readItems limit fuel (skipLayout more) = .ok (items, after)) :
    readItems limit (fuel + 1) s = .ok (item :: items, after) := by
  simp only [readItems, first, bind, Except.bind, comma, later, pure,
    Except.pure]

theorem skipLayout_colon : skipLayout (':' :: s) = ':' :: s :=
  rfl

theorem skipLayout_blank : skipLayout (' ' :: s) = skipLayout s :=
  rfl

theorem readMembers_last
    (first : readValue limit fuel (skipLayout s) = .ok (value, rest))
    (closes : skipLayout rest = '}' :: after) :
    readMembers limit (fuel + 1) before
        (textChars charset name ++ ':' :: ' ' :: s) =
      .ok (insertMember before name value, after) := by
  rw [textChars_append, readMembers, readText_textChars]
  simp only [bind, Except.bind, skipLayout_colon, skipLayout_blank, first,
    closes, String.ofList_toList, pure, Except.pure]

theorem readMembers_next
    (first : readValue limit fuel (skipLayout s) = .ok (value, rest))
    (comma : skipLayout rest = ',' :: more)
    (later : readMembers limit fuel (insertMember before name value)
      (skipLayout more) = .ok (members, after)) :
    readMembers limit (fuel + 1) before
      (textChars charset name ++ ':' :: ' ' :: s) = .ok (members, after) := by
  rw [textChars_append, readMembers, readText_textChars]
  simp only [bind, Except.bind, skipLayout_colon, skipLayout_blank, first,
    comma, String.ofList_toList, later]

end Steps

theorem blockChars_array {items : List Json} (some : items ≠ []) (level : Nat) :
    blockChars charset level (.array items) = '[' :: (newline (level + 1) ++
      (blockItems charset (level + 1) items ++ (newline level ++ [']']))) := by
  rw [blockChars]
  · simp
  · exact some

theorem blockChars_object {members : List (String × Json)} (some : members ≠ [])
    (level : Nat) :
    blockChars charset level (.object members) = '{' :: (newline (level + 1) ++
      (blockMembers charset (level + 1) members ++
        (newline level ++ ['}']))) := by
  rw [blockChars]
  · simp
  · exact some

/-- Items are read back up to the closing bracket, if each of them is read
back. -/
theorem readItems_block {items : List Json} (some : items ≠ [])
    (plain : ∀ item ∈ items, Plain limit item)
    (each : ∀ item ∈ items, ReadsBack limit charset item) {level fuel : Nat}
    {closing after : List Char} (closes : skipLayout closing = ']' :: after)
    (ends : EndsNumber closing)
    (enough : (blockItems charset level items).length + 1 < fuel) :
    readItems limit fuel (blockItems charset level items ++ closing) =
      .ok (items, after) := by
  induction items generalizing fuel with
  | nil => exact absurd rfl some
  | cons item items induction =>
      obtain ⟨first, others⟩ := List.forall_mem_cons.mp each
      obtain ⟨_, plains⟩ := List.forall_mem_cons.mp plain
      -- An item takes one step of the fuel, and its text and the comma have
      -- more characters than that.
      obtain ⟨fuel, rfl⟩ : ∃ n, fuel = n + 1 := ⟨fuel - 1, by omega⟩
      by_cases last : items = []
      · subst last
        rw [blockItems] at enough ⊢
        exact readItems_last (first level fuel closing ends (by omega)) closes
      · rw [blockItems_cons last] at enough ⊢
        simp only [List.length_append, List.length_cons] at enough
        have begins :
            skipLayout
              (newline level ++ (blockItems charset level items ++ closing)) =
            blockItems charset level items ++ closing := by
          rw [skipLayout_newline]
          exact ((begins_blockItems last plains level).append
            closing).skipLayout
        have later :
            readItems limit fuel (blockItems charset level items ++ closing) =
              .ok (items, after) :=
          induction last plains others (by omega)
        rw [List.append_assoc, List.cons_append, List.append_assoc]
        exact readItems_next
          (first level fuel _ (endsNumber_comma _) (by omega)) rfl
          (by rw [begins, later])

/-- Members are read back up to the closing brace, behind those that were read
before. -/
theorem readMembers_block {members before : List (String × Json)}
    (some : members ≠ []) (distinct : ((before ++ members).map Prod.fst).Nodup)
    (plain : ∀ member ∈ members, Plain limit member.2)
    (each : ∀ member ∈ members, ReadsBack limit charset member.2)
    {level fuel : Nat} {closing after : List Char}
    (closes : skipLayout closing = '}' :: after) (ends : EndsNumber closing)
    (enough : (blockMembers charset level members).length + 1 < fuel) :
    readMembers limit fuel before
        (blockMembers charset level members ++ closing) =
      .ok (before ++ members, after) := by
  induction members generalizing fuel before with
  | nil => exact absurd rfl some
  | cons member members induction =>
      obtain ⟨name, value⟩ := member
      obtain ⟨first, others⟩ := List.forall_mem_cons.mp each
      obtain ⟨own, plains⟩ := List.forall_mem_cons.mp plain
      dsimp only at first own
      obtain ⟨fuel, rfl⟩ : ∃ n, fuel = n + 1 := ⟨fuel - 1, by omega⟩
      -- A name that was not there yet is added behind the others, so that the
      -- order stays.
      have new :
          insertMember before name value = before ++ [(name, value)] := by
        refine insertMember_of_notMem fun member => ?_
        rw [List.map_append, List.nodup_append] at distinct
        exact distinct.2.2 name member name (by simp) rfl
      have shown (more : List Char) :
          skipLayout (blockChars charset level value ++ more) =
          blockChars charset level value ++ more :=
        ((own.begins level).append more).skipLayout
      by_cases last : members = []
      · subst last
        rw [blockMembers] at enough ⊢
        simp only [List.length_append, List.length_cons] at enough
        have read := first level fuel closing ends (by omega)
        rw [List.append_assoc, List.cons_append, List.cons_append, ← new]
        exact readMembers_last (by rw [shown, read]) closes
      · rw [blockMembers_cons last] at enough ⊢
        simp only [List.length_append, List.length_cons] at enough
        have read :=
          first level fuel
            (',' :: (newline level ++
              (blockMembers charset level members ++ closing)))
            (endsNumber_comma _) (by omega)
        have begins :
            skipLayout (newline level ++
              (blockMembers charset level members ++ closing)) =
            blockMembers charset level members ++ closing := by
          rw [skipLayout_newline]
          exact ((begins_blockMembers last level).append closing).skipLayout
        have later : readMembers limit fuel (before ++ [(name, value)])
            (blockMembers charset level members ++ closing) =
              .ok (before ++ [(name, value)] ++ members, after) :=
          induction last (by simpa using distinct) plains others (by omega)
        have joined :
            before ++ (name, value) :: members =
              before ++ [(name, value)] ++ members := by
          simp
        rw [List.append_assoc, List.cons_append, List.cons_append,
          List.append_assoc, List.cons_append, List.append_assoc, joined]
        exact readMembers_next (by rw [shown, read]) rfl
          (by rw [new, begins, later])

/-- A document is read back from its text over several lines. -/
theorem Plain.readsBack {document : Json} (plain : Plain limit document) :
    ReadsBack limit charset document := by
  induction plain with
    (intro level fuel after ends enough
     obtain ⟨fuel, rfl⟩ : ∃ n, fuel = n + 1 := ⟨fuel - 1, by omega⟩)
  | null => rfl
  | bool b => cases b <;> rfl
  | text s => exact readValue_textChars s
  | int few => exact readValue_intText few ends fuel
  | @array items plain each =>
      by_cases none : items = []
      · subst none
        rfl
      · have closes :
            skipLayout (newline level ++ ']' :: after) = ']' :: after :=
          skipLayout_newline _ _
        have begins :
            Begins (blockItems charset (level + 1) items ++
              (newline level ++ ']' :: after)) :=
          (begins_blockItems none plain (level + 1)).append _
        rw [blockChars_array none] at enough ⊢
        simp only [List.length_append, List.length_cons] at enough
        simp only [List.append_assoc, List.cons_append, List.nil_append]
        refine readValue_array ?_ ?_
        · rw [skipLayout_newline, begins.skipLayout]
          exact begins
        · rw [skipLayout_newline, begins.skipLayout]
          exact readItems_block none plain each closes
            (endsNumber_newline _ _) (by omega)
  | @object members distinct plain each =>
      by_cases none : members = []
      · subst none
        rfl
      · have closes :
            skipLayout (newline level ++ '}' :: after) = '}' :: after :=
          skipLayout_newline _ _
        have begins :
            Begins (blockMembers charset (level + 1) members ++
              (newline level ++ '}' :: after)) :=
          (begins_blockMembers none (level + 1)).append _
        rw [blockChars_object none] at enough ⊢
        simp only [List.length_append, List.length_cons] at enough
        simp only [List.append_assoc, List.cons_append, List.nil_append]
        refine readValue_object ?_ ?_
        · rw [skipLayout_newline, begins.skipLayout]
          exact begins
        · rw [skipLayout_newline, begins.skipLayout]
          exact readMembers_block none (by exact distinct) plain each closes
            (endsNumber_newline _ _) (by omega)

/-- A document is what is read from its text over several lines with a line feed
at the end. -/
theorem Plain.readAll_block {document : Json} (plain : Plain limit document) :
    readAll limit (block charset document ++ "\n").toList = .ok document := by
  have begins : Begins (blockChars charset 0 document ++ ['\n']) :=
    (plain.begins 0).append _
  have chars : (block charset document ++ "\n").toList =
      blockChars charset 0 document ++ ['\n'] := by
    simp [block]
  have back : ReadsBack limit charset document := plain.readsBack
  have value :=
    back 0 ((blockChars charset 0 document ++ ['\n']).length + 1) ['\n']
      (endsNumber_newline 0 []) (by simp only [List.length_append]; omega)
  have head : (blockChars charset 0 document ++ ['\n']).head? ≠
      some (Char.ofNat 0xfeff) := by
    obtain ⟨c, rest, same, _, _, _, unmarked⟩ := begins
    rw [same]
    simpa using unmarked
  rw [chars]
  unfold readAll
  rw [if_neg head, begins.skipLayout, value]
  rfl

theorem read_of_readAll {text : String} {document : Json}
    (whole : readAll digitLimit text.toList = .ok document) :
    read text = .ok document := by
  rw [read, whole]

end PageFlow.Json
