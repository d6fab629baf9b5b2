import PageFlow.Flow.File
import PageFlow.Proofs.Files
import PageFlow.Proofs.RoundTrip

/-!
# Documents in files

A document that is written with escapes for everything outside ASCII passes
through a file unchanged: every character of its text is one byte, and no end of
a line in it is rewritten when the file is read.
-/

namespace PageFlow

open PageFlow.Text PageFlow.Json PageFlow.Decimal

/-! ## Characters that files keep -/

/-- A character that is one byte in a file and is read as it was written. -/
def Text.Portable (c : Char) : Prop :=
  c.toNat < 0x80 ∧ c ≠ '\r'

instance : DecidablePred Text.Portable :=
  fun _ => inferInstanceAs (Decidable (_ ∧ _))

namespace Text

theorem portable_of_all {s : List Char}
    (each : s.all fun c => decide (Portable c)) : ∀ c ∈ s, Portable c := by
  simpa using each

theorem toList_loop (bytes : ByteArray) (start : Nat) (done : List UInt8) :
    ByteArray.toList.loop bytes start done =
      done.reverse ++ bytes.data.toList.drop start := by
  fun_induction ByteArray.toList.loop bytes start done with
  | case1 start done more induction =>
      have inside : start < bytes.data.toList.length := by simpa using more
      rw [induction, List.drop_eq_getElem_cons inside]
      simp [ByteArray.get!, more]
  | case2 start done short =>
      rw [List.drop_eq_nil_of_le (by simpa using Nat.le_of_not_lt short),
        List.append_nil]

theorem toList_toByteArray (bytes : List UInt8) :
    bytes.toByteArray.toList = bytes := by
  rw [ByteArray.toList, toList_loop, List.toList_data_toByteArray]
  rfl

theorem encodeUtf8_of_ascii {s : String}
    (ascii : ∀ c ∈ s.toList, c.toNat < 0x80) :
    encodeUtf8 s = s.toList.map fun c => UInt8.ofNat c.toNat := by
  have whole : encodeUtf8 s = s.toList.flatMap String.utf8EncodeChar := by
    have bytes :
        s.toByteArray =
          (s.toList.flatMap String.utf8EncodeChar).toByteArray := by
      exact (congrArg String.toByteArray (String.ofList_toList).symm).trans
        String.toByteArray_ofList
    rw [encodeUtf8, String.toUTF8_eq_toByteArray, bytes, toList_toByteArray]
  rw [whole]
  generalize s.toList = chars at ascii
  induction chars with
  | nil => rfl
  | cons c chars induction =>
      obtain ⟨first, later⟩ := List.forall_mem_cons.mp ascii
      have one : c.utf8Size = 1 := by
        rw [Char.utf8Size_eq_one_iff, UInt32.le_iff_toNat_le]
        have code : c.val.toNat = c.toNat := rfl
        have most : (127 : UInt32).toNat = 127 := rfl
        omega
      rw [List.flatMap_cons, String.utf8EncodeChar_eq_singleton one,
        induction later, List.map_cons]
      rfl

theorem decodeFrom_of_ascii {s : List Char} (ascii : ∀ c ∈ s, c.toNat < 0x80)
    (offset : Nat) :
    decodeFrom offset (s.map fun c => UInt8.ofNat c.toNat) = .ok s := by
  induction s generalizing offset with
  | nil => rw [List.map_nil, decodeFrom]
  | cons c s induction =>
      obtain ⟨first, later⟩ := List.forall_mem_cons.mp ascii
      have code : (UInt8.ofNat c.toNat).toNat = c.toNat := by
        rw [UInt8.toNat_ofNat', Nat.mod_eq_of_lt (by omega)]
      rw [List.map_cons, decodeFrom, code, if_pos first, induction later,
        Char.ofNat_toNat]
      rfl

theorem decodeUtf8_encodeUtf8 {s : String}
    (ascii : ∀ c ∈ s.toList, c.toNat < 0x80) :
    decodeUtf8 (encodeUtf8 s) = .ok s := by
  rw [encodeUtf8_of_ascii ascii, decodeUtf8, decodeFrom_of_ascii ascii]
  exact congrArg Except.ok String.ofList_toList

theorem portable_hexDigit (n : Nat) : Portable (hexDigit (n % 16)) := by
  have each : ∀ d < 16, Portable (hexDigit d) := by decide
  exact each _ (Nat.mod_lt n (by decide))

end Text

theorem Flow.normalLines_of_notMem {s : List Char} (whole : '\r' ∉ s) :
    normalLines s = s := by
  induction s with
  | nil => rfl
  | cons c s induction =>
      rw [List.mem_cons, not_or] at whole
      rw [normalLines, induction whole.2]
      · rintro _ rfl
        exact absurd rfl whole.1
      · rintro rfl
        exact absurd rfl whole.1

/-! ## Texts of documents -/

namespace Json

variable {limit : Nat}

theorem portable_unitEscape (unit : Nat) :
    ∀ c ∈ unitEscape unit, Portable c := by
  rw [unitEscape_eq]
  simp only [List.forall_mem_cons, portable_hexDigit, true_and]
  exact ⟨by decide, by decide, by simp⟩

theorem portable_escapeChar (c : Char) :
    ∀ d ∈ escapeChar .ascii c, Portable d := by
  unfold escapeChar
  dsimp only
  split_ifs with quote slash feed back tab form erase low early basic
  -- The first seven are the short escapes.
  iterate 7 exact portable_of_all (by decide)
  · exact portable_unitEscape _
  · exact List.forall_mem_singleton.mpr ⟨by omega, back⟩
  · exact portable_unitEscape _
  · exact List.forall_mem_append.mpr ⟨portable_unitEscape _,
      portable_unitEscape _⟩

theorem portable_textChars (s : String) :
    ∀ c ∈ textChars .ascii s, Portable c := by
  rw [textChars, List.forall_mem_append, List.forall_mem_cons]
  refine ⟨⟨by decide, fun c member => ?_⟩, portable_of_all (by decide)⟩
  obtain ⟨d, -, escaped⟩ := List.mem_flatMap.mp member
  exact portable_escapeChar d c escaped

theorem portable_intText (n : Int) : ∀ c ∈ (intText n).toList, Portable c := by
  have digits : ∀ c ∈ natDigits n.natAbs, Portable c := by
    intro c member
    have decimal := isDigit_natDigits c member
    simp only [Char.isDigit, Bool.and_eq_true, decide_eq_true_eq] at decimal
    have most : c.toNat ≤ 57 := UInt32.le_iff_toNat_le.mp decimal.2
    refine ⟨by omega, ?_⟩
    rintro rfl
    exact absurd decimal.1 (by decide)
  unfold intText
  split
  · simpa using ⟨by decide, digits⟩
  · simpa using digits

theorem portable_newline (level : Nat) : ∀ c ∈ newline level, Portable c := by
  rw [newline, List.forall_mem_cons]
  refine ⟨by decide, fun c member => ?_⟩
  rw [List.eq_of_mem_replicate member]
  decide

theorem portable_blockItems {items : List Json} {level : Nat}
    (each : ∀ item ∈ items, ∀ c ∈ blockChars .ascii level item, Portable c) :
    ∀ c ∈ blockItems .ascii level items, Portable c := by
  induction items with
  | nil => simp [blockItems]
  | cons item items induction =>
      obtain ⟨first, later⟩ := List.forall_mem_cons.mp each
      by_cases last : items = []
      · subst last
        exact first
      · rw [blockItems_cons last, List.forall_mem_append, List.forall_mem_cons,
          List.forall_mem_append]
        exact ⟨first, by decide, portable_newline level, induction later⟩

theorem portable_blockMembers {members : List (String × Json)} {level : Nat}
    (each : ∀ member ∈ members, ∀ c ∈ blockChars .ascii level member.2,
      Portable c) :
    ∀ c ∈ blockMembers .ascii level members, Portable c := by
  induction members with
  | nil => simp [blockMembers]
  | cons member members induction =>
      obtain ⟨name, value⟩ := member
      obtain ⟨first, later⟩ := List.forall_mem_cons.mp each
      by_cases last : members = []
      · subst last
        rw [blockMembers, List.forall_mem_append, List.forall_mem_cons,
          List.forall_mem_cons]
        exact ⟨portable_textChars name, by decide, by decide, first⟩
      · rw [blockMembers_cons last, List.forall_mem_append,
          List.forall_mem_cons, List.forall_mem_cons, List.forall_mem_append,
          List.forall_mem_cons, List.forall_mem_append]
        exact ⟨portable_textChars name, by decide, by decide, first, by decide,
          portable_newline level, induction later⟩

theorem Plain.portable {document : Json} (plain : Plain limit document)
    (level : Nat) :
    ∀ c ∈ blockChars .ascii level document, Portable c := by
  induction plain generalizing level with
  | null =>
      rw [blockChars]
      exact portable_of_all (by decide)
  | bool b => cases b <;> rw [blockChars] <;> exact portable_of_all (by decide)
  | int few => exact portable_intText _
  | text s => exact portable_textChars s
  | @array items _ each =>
      by_cases none : items = []
      · subst none
        rw [blockChars]
        exact portable_of_all (by decide)
      · rw [blockChars_array none]
        simp only [List.forall_mem_cons, List.forall_mem_append]
        exact ⟨by decide, portable_newline _,
          portable_blockItems fun item among => each item among _,
          portable_newline _, by decide, by simp⟩
  | @object members _ _ each =>
      by_cases none : members = []
      · subst none
        rw [blockChars]
        exact portable_of_all (by decide)
      · rw [blockChars_object none]
        simp only [List.forall_mem_cons, List.forall_mem_append]
        exact ⟨by decide, portable_newline _,
          portable_blockMembers fun member among => each member among _,
          portable_newline _, by decide, by simp⟩

end Json

/-! ## Reading files -/

namespace FileSystem

variable {files : FileSystem} {path : Path} {place : Place} {node : Node}

theorem find_of_locate (located : files.locate path = .ok place)
    (there : files.at? place = some node) : files.find path = .ok node := by
  rw [find, located]
  simp only [there]

theorem exists?_of_find (found : files.find path = .ok node) :
    files.exists? path = .ok true := by
  rw [exists?, look, found]
  rfl

end FileSystem

/-- A plain document that was written to a JSON file is the only one that is
read from it. -/
theorem Flow.readDocuments_of_block {files : FileSystem} {path : Path}
    {document : Json} (json : isJsonFile path)
    (plain : Plain digitLimit document)
    (found : files.find path =
      .ok (.file (encodeUtf8 (Json.block .ascii document ++ "\n")))) :
    readDocuments files path = .ok [document.toValue] := by
  have chars : (Json.block .ascii document ++ "\n").toList =
      blockChars .ascii 0 document ++ ['\n'] := by simp [block]
  have portable : ∀ c ∈ (Json.block .ascii document ++ "\n").toList,
      Portable c := by
    rw [chars, List.forall_mem_append]
    exact ⟨plain.portable 0, portable_of_all (by decide)⟩
  have text :
      fileText files path = .ok (Json.block .ascii document ++ "\n") := by
    have decoded := decodeUtf8_encodeUtf8 fun c member => (portable c member).1
    have lines :=
      normalLines_of_notMem fun member => (portable '\r' member).2 rfl
    rw [fileText, FileSystem.read, found]
    dsimp only
    rw [decoded]
    dsimp only
    rw [lines, String.ofList_toList]
  rw [readDocuments, FileSystem.exists?_of_find found]
  dsimp only
  rw [text]
  dsimp only
  rw [documentsOf, if_pos json, read_of_readAll plain.readAll_block]

end PageFlow
