import Mathlib.Tactic.Ring
import PageFlow.Proofs.Act
import PageFlow.Step.Reader

/-!
# Values that can be quoted

A value has a document unless a mapping in it has a key without a JSON form or
an integer in it has too many digits. What was read from JSON has neither, since
the reader has the same limit for integers as the writer.
-/

namespace PageFlow

open PageFlow.Decimal

/-! ## Documents of values -/

namespace Value

/-- A key that names a member of a JSON object. -/
inductive NamesMember : Value → Prop where
  | null : NamesMember .null
  | bool (b : Bool) : NamesMember (.bool b)
  | int {n : Int} : isWritable n → NamesMember (.int n)
  | float (x : Binary64) : NamesMember (.float x)
  | text (s : String) : NamesMember (.text s)

/-- A value with JSON keys and integers of a moderate size only, at any
depth. -/
inductive Quotable : Value → Prop where
  | null : Quotable .null
  | bool (b : Bool) : Quotable (.bool b)
  | int {n : Int} : isWritable n → Quotable (.int n)
  | float (x : Binary64) : Quotable (.float x)
  | text (s : String) : Quotable (.text s)
  | bytes (data : List UInt8) : Quotable (.bytes data)
  | date (day : Date) : Quotable (.date day)
  | time (moment : DateTime) : Quotable (.time moment)
  | list {items : List Value} : (∀ item ∈ items, Quotable item) →
    Quotable (.list items)
  | set {items : List Value} : (∀ item ∈ items, Quotable item) →
    Quotable (.set items)
  | pair {first second : Value} : Quotable first → Quotable second →
    Quotable (.pair first second)
  | dict {entries : List (Value × Value)} :
      (∀ entry ∈ entries, entry.1.NamesMember) →
      (∀ entry ∈ entries, Quotable entry.2) →
      Quotable (.dict entries)

theorem exists_keyName_iff {key : Value} :
    (∃ name, keyName? key = .ok name) ↔ key.NamesMember := by
  constructor
  · rintro ⟨name, found⟩
    cases key with
    | int n =>
        rw [keyName?] at found
        split at found
        · exact .int ‹_›
        · cases found
    | null | bool | float | text => constructor
    | _ => cases found
  · rintro (_ | _ | writable)
    case int => exact ⟨_, if_pos writable⟩
    all_goals exact ⟨_, rfl⟩

private theorem itemsToJson_of_items {items : List Value}
    (each : ∀ item ∈ items, ∃ document, toJson? item = .ok document) :
    ∃ documents, itemsToJson? items = .ok documents := by
  induction items with
  | nil => exact ⟨[], rfl⟩
  | cons item items induction =>
      obtain ⟨first, read⟩ := each item (by simp)
      obtain ⟨rest, reads⟩ :=
        induction fun item member => each item (by simp [member])
      exact ⟨first :: rest, by rw [itemsToJson?, read, reads]; rfl⟩

private theorem entriesToJson_of_entries {entries : List (Value × Value)}
    (keys : ∀ entry ∈ entries, entry.1.NamesMember)
    (values : ∀ entry ∈ entries, ∃ document, toJson? entry.2 = .ok document) :
    ∃ members, entriesToJson? entries = .ok members := by
  induction entries with
  | nil => exact ⟨[], rfl⟩
  | cons entry entries induction =>
      obtain ⟨name, named⟩ := exists_keyName_iff.mpr (keys entry (by simp))
      obtain ⟨first, read⟩ := values entry (by simp)
      obtain ⟨rest, reads⟩ :=
        induction (fun entry member => keys entry (by simp [member]))
          fun entry member => values entry (by simp [member])
      exact ⟨(name, first) :: rest,
        by rw [entriesToJson?, named, read, reads]; rfl⟩

theorem Quotable.exists_toJson {value : Value} (quotable : value.Quotable) :
    ∃ document, toJson? value = .ok document := by
  induction quotable with
  | int writable => exact ⟨_, by rw [toJson?, if_pos writable]⟩
  | list _ items =>
      obtain ⟨documents, read⟩ := itemsToJson_of_items items
      exact ⟨.array documents, by rw [toJson?, read]; rfl⟩
  | set _ items =>
      obtain ⟨documents, read⟩ := itemsToJson_of_items items
      exact ⟨_, by rw [toJson?, read]; rfl⟩
  | pair _ _ first second =>
      obtain ⟨head, read⟩ := first
      obtain ⟨tail, reads⟩ := second
      exact ⟨.array [head, tail], by rw [toJson?, read, reads]; rfl⟩
  | dict keys _ values =>
      obtain ⟨members, read⟩ := entriesToJson_of_entries keys values
      exact ⟨.object members, by rw [toJson?, read]; rfl⟩
  | _ => exact ⟨_, by rw [toJson?]⟩

mutual

theorem quotable_of_toJson : ∀ {value : Value} {document : Json},
    toJson? value = .ok document → value.Quotable
  | .null, _, _ => .null
  | .bool b, _, _ => .bool b
  | .float x, _, _ => .float x
  | .text s, _, _ => .text s
  | .bytes data, _, _ => .bytes data
  | .date day, _, _ => .date day
  | .time moment, _, _ => .time moment
  | .int n, _, written => by
      rw [toJson?] at written
      split at written
      · exact .int ‹_›
      · cases written
  | .list items, _, written => by
      rw [toJson?] at written
      obtain ⟨_, read, _⟩ := exists_of_bind_eq_ok written
      exact .list (quotable_of_items read)
  | .set items, _, written => by
      rw [toJson?] at written
      obtain ⟨_, read, _⟩ := exists_of_bind_eq_ok written
      exact .set (quotable_of_items read)
  | .pair first second, _, written => by
      rw [toJson?] at written
      obtain ⟨_, read, rest⟩ := exists_of_bind_eq_ok written
      obtain ⟨_, reads, _⟩ := exists_of_bind_eq_ok rest
      exact .pair (quotable_of_toJson read) (quotable_of_toJson reads)
  | .dict entries, _, written => by
      rw [toJson?] at written
      obtain ⟨_, read, _⟩ := exists_of_bind_eq_ok written
      have each := quotable_of_entries read
      exact .dict (fun entry member => (each entry member).1)
        fun entry member => (each entry member).2

theorem quotable_of_items : ∀ {items : List Value} {documents : List Json},
    itemsToJson? items = .ok documents → ∀ item ∈ items, Quotable item
  | [], _, _ => by simp
  | first :: rest, _, written => by
      rw [itemsToJson?] at written
      obtain ⟨_, read, remaining⟩ := exists_of_bind_eq_ok written
      obtain ⟨_, reads, _⟩ := exists_of_bind_eq_ok remaining
      exact List.forall_mem_cons.mpr ⟨quotable_of_toJson read,
        quotable_of_items reads⟩

theorem quotable_of_entries :
    ∀ {entries : List (Value × Value)} {members : List (String × Json)},
    entriesToJson? entries = .ok members →
      ∀ entry ∈ entries, entry.1.NamesMember ∧ Quotable entry.2
  | [], _, _ => by simp
  | (key, value) :: rest, _, written => by
      rw [entriesToJson?] at written
      obtain ⟨name, named, remaining⟩ := exists_of_bind_eq_ok written
      obtain ⟨_, read, remaining⟩ := exists_of_bind_eq_ok remaining
      obtain ⟨_, reads, _⟩ := exists_of_bind_eq_ok remaining
      exact List.forall_mem_cons.mpr
        ⟨⟨exists_keyName_iff.mp ⟨name, named⟩, quotable_of_toJson read⟩,
          quotable_of_entries reads⟩

end

theorem exists_jsonText_iff {value : Value} :
    (∃ text, value.jsonText? = .ok text) ↔ value.Quotable := by
  constructor
  · rintro ⟨text, written⟩
    obtain ⟨_, read, _⟩ := exists_of_bind_eq_ok written
    exact quotable_of_toJson read
  · intro quotable
    obtain ⟨document, read⟩ := quotable.exists_toJson
    exact ⟨Json.line document, by rw [jsonText?, read]; rfl⟩

end Value

/-! ## Documents that were read -/

namespace Json

/-- A document with integers of a moderate size only, at any depth. -/
inductive Writable : Json → Prop where
  | null : Writable .null
  | bool (b : Bool) : Writable (.bool b)
  | int {n : Int} : Value.isWritable n → Writable (.int n)
  | float (x : Binary64) : Writable (.float x)
  | text (s : String) : Writable (.text s)
  | array {items : List Json} : (∀ item ∈ items, Writable item) →
    Writable (.array items)
  | object {members : List (String × Json)} :
      (∀ member ∈ members, Writable member.2) → Writable (.object members)

theorem digitsValue_lt {digits : List Char}
    (decimal : ∀ c ∈ digits, c.isDigit) :
    digitsValue digits < 10 ^ digits.length := by
  have grows (s : List Char) (n : Nat) (decimal : ∀ c ∈ s, c.isDigit) :
      s.foldl (fun n c => 10 * n + (c.toNat - 48)) n <
        (n + 1) * 10 ^ s.length := by
    induction s generalizing n with
    | nil => simp
    | cons c s induction =>
        have small : c.toNat - 48 ≤ 9 := by
          have digit := decimal c (by simp)
          simp only [Char.isDigit, Bool.and_eq_true, decide_eq_true_eq,
            UInt32.le_iff_toNat_le] at digit
          have most : c.toNat ≤ 57 := digit.2
          omega
        calc
          s.foldl (fun n c => 10 * n + (c.toNat - 48)) (10 * n + (c.toNat - 48))
            < (10 * n + (c.toNat - 48) + 1) * 10 ^ s.length :=
              induction _ fun c member => decimal c (by simp [member])
          _ ≤ (10 * (n + 1)) * 10 ^ s.length :=
              Nat.mul_le_mul_right _ (by omega)
          _ = (n + 1) * 10 ^ (s.length + 1) := by ring
  simpa [digitsValue] using grows digits 0 decimal

theorem allows_iff {limit count : Nat} :
    allows limit count ↔ limit = 0 ∨ count ≤ limit := by
  rw [allows, Bool.or_eq_true, beq_iff_eq, decide_eq_true_iff]

theorem isWritable_digitsValue {digits : List Char}
    (decimal : ∀ c ∈ digits, c.isDigit) (some : digits ≠ [])
    (few : digits.length ≤ digitLimit) (negative : Bool) :
    Value.isWritable (if negative then -(digitsValue digits : Int)
      else digitsValue digits) := by
  have size :
      (if negative then -(digitsValue digits : Int)
        else digitsValue digits).natAbs =
      digitsValue digits := by
    cases negative <;> simp
  rw [Value.isWritable, size, decide_eq_true_eq]
  refine Nat.le_trans ?_ few
  exact (Nat.length_toDigits_le_iff (by decide)
    (List.length_pos_iff.mpr some)).mpr
    (digitsValue_lt decimal)

theorem isDigit_of_splitWhole {s : List Char} :
    ∀ c ∈ (splitWhole s).1, c.isDigit := by
  intro c member
  unfold splitWhole at member
  split at member
  · rw [List.mem_singleton.mp member]
    rfl
  · exact List.all_eq_true.mp List.all_takeWhile c member

theorem writable_of_readNumber {negative : Bool} {s rest : List Char}
    {document : Json}
    (read : readNumber? digitLimit negative s = .ok (some (document, rest))) :
    document.Writable := by
  have decimal := isDigit_of_splitWhole (s := s)
  rcases split : splitWhole s with ⟨whole, after⟩
  unfold readNumber? at read
  rw [split] at decimal read
  dsimp only at decimal
  split at read
  · cases read
  · rename_i some same
    obtain ⟨rfl, rfl⟩ := Prod.mk.inj same
    dsimp only at read
    split at read
    · split at read
      · rename_i few
        cases read
        exact .int (isWritable_digitsValue decimal
          some ((allows_iff.mp few).resolve_left (by decide)) negative)
      · cases read
    · cases read
      exact .float _

theorem writable_of_readScalar {s rest : List Char} {document : Json}
    (read : readScalar digitLimit s = .ok (document, rest)) :
    document.Writable := by
  have word {text : String} {fixed : Json} (writable : fixed.Writable)
      (read : readScalar.word s text fixed = .ok (document, rest)) :
        document.Writable := by
    unfold readScalar.word at read
    split at read
    · cases read
      exact writable
    · cases read
  have number {negative : Bool} {digits : List Char}
      (read : readScalar.number digitLimit s negative digits =
        .ok (document, rest)) : document.Writable := by
    unfold readScalar.number at read
    split at read
    · cases read
    · cases read
      exact writable_of_readNumber ‹_›
    · cases read
  unfold readScalar at read
  split at read
  · exact word .null read
  · exact word (.bool _) read
  · exact word (.bool _) read
  · exact word (.float _) read
  · exact word (.float _) read
  · split at read
    · cases read
      exact .float _
    · exact number read
  · exact number read

theorem writable_insertMember {members : List (String × Json)} {name : String}
    {value : Json} (writable : ∀ member ∈ members, member.2.Writable)
    (own : value.Writable) :
    ∀ member ∈ insertMember members name value, member.2.Writable := by
  induction members with
  | nil => simpa [insertMember] using own
  | cons first members induction =>
      obtain ⟨here, later⟩ := List.forall_mem_cons.mp writable
      rw [insertMember]
      split
      · exact List.forall_mem_cons.mpr ⟨own, later⟩
      · exact List.forall_mem_cons.mpr ⟨here, induction later⟩

/-- What the reader gives with some fuel, as a document, as items and as
members. -/
private structure ReadsWritable (fuel : Nat) : Prop where
  value : ∀ {s rest document},
    readValue digitLimit fuel s = .ok (document, rest) → document.Writable
  items : ∀ {s rest documents},
    readItems digitLimit fuel s = .ok (documents, rest) →
    ∀ document ∈ documents, document.Writable
  members : ∀ {s rest before after}, (∀ member ∈ before, member.2.Writable) →
    readMembers digitLimit fuel before s = .ok (after, rest) → ∀ member ∈ after,
      member.2.Writable

private theorem readsWritable (fuel : Nat) : ReadsWritable fuel := by
  -- The three readers call each other with less fuel, so that one induction has
  -- to carry all of them.
  induction fuel with
  | zero =>
      exact ⟨fun read => (nomatch read), fun read => (nomatch read),
        fun _ read => (nomatch read)⟩
  | succ fuel induction =>
      refine ⟨?_, ?_, ?_⟩
      · intro s rest document read
        unfold readValue at read
        split at read
        · obtain ⟨_, _, rest⟩ := exists_of_bind_eq_ok read
          cases rest
          exact .text _
        · split at read
          · cases read
            exact .array (by simp)
          · obtain ⟨_, items, rest⟩ := exists_of_bind_eq_ok read
            cases rest
            exact .array (induction.items items)
        · split at read
          · cases read
            exact .object (by simp)
          · obtain ⟨_, members, rest⟩ := exists_of_bind_eq_ok read
            cases rest
            exact .object (induction.members (by simp) members)
        · exact writable_of_readScalar read
      · intro s rest documents read
        unfold readItems at read
        obtain ⟨⟨item, after⟩, first, more⟩ := exists_of_bind_eq_ok read
        have here := induction.value first
        dsimp only at more
        split at more
        · cases more
          simpa using here
        · obtain ⟨_, later, last⟩ := exists_of_bind_eq_ok more
          cases last
          exact List.forall_mem_cons.mpr ⟨here, induction.items later⟩
        · cases more
      · intro s rest before after writable read
        unfold readMembers at read
        split at read
        · obtain ⟨⟨name, following⟩, _, more⟩ := exists_of_bind_eq_ok read
          dsimp only at more
          split at more
          · obtain ⟨⟨value, behind⟩, first, more⟩ := exists_of_bind_eq_ok more
            have known :
                ∀ member ∈ insertMember before (String.ofList name) value,
                member.2.Writable :=
              writable_insertMember writable (induction.value first)
            dsimp only at more
            split at more
            · cases more
              exact known
            · exact induction.members known more
            · cases more
          · cases more
        · cases read

theorem writable_of_read {text : String} {document : Json}
    (decoded : Json.read text = .ok document) : document.Writable := by
  rw [Json.read] at decoded
  split at decoded
  · rename_i found
    cases decoded
    unfold readAll at found
    split at found
    · cases found
    · obtain ⟨⟨document, rest⟩, read, last⟩ := exists_of_bind_eq_ok found
      dsimp only at last
      split at last
      · cases last
        exact (readsWritable _).value read
      · cases last
  · cases decoded

theorem toValues_eq_map {items : List Json} :
    toValues items = items.map toValue := by
  induction items with
  | nil => rfl
  | cons item items induction => rw [toValues, induction, List.map_cons]

theorem mem_toValues {items : List Json} {value : Value} :
    value ∈ toValues items ↔ ∃ item ∈ items, toValue item = value := by
  rw [toValues_eq_map, List.mem_map]

theorem mem_toEntries {members : List (String × Json)} {entry : Value × Value} :
    entry ∈ toEntries members ↔
      ∃ member ∈ members, (Value.text member.1, toValue member.2) = entry := by
  induction members with
  | nil => simp [toEntries]
  | cons member members induction => simp [toEntries, induction, eq_comm]

/-- A document that was read can be quoted. -/
theorem Writable.quotable {document : Json} (writable : document.Writable) :
    (toValue document).Quotable := by
  induction writable with
  | int n => exact .int n
  | array _ items =>
      refine .list fun value member => ?_
      obtain ⟨item, among, rfl⟩ := mem_toValues.mp member
      exact items item among
  | object _ values =>
      refine .dict (fun entry member => ?_) fun entry member => ?_
      · obtain ⟨_, _, rfl⟩ := mem_toEntries.mp member
        exact .text _
      · obtain ⟨original, among, rfl⟩ := mem_toEntries.mp member
        exact values original among
  | _ => constructor

end Json

end PageFlow
