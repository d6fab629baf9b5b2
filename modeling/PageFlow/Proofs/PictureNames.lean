import PageFlow.Proofs.Moments
import PageFlow.Screenshot

/-!
# Names of screenshots

The name of a screenshot is a stem from its label, a stamp of fixed width and
the suffix. The stem has only letters, numbers, hyphens and underscores, so that
the name is one file of its directory; and since the stamps have one width,
names of one label are in the order of their times, whatever a label ends with.
-/

namespace PageFlow.Screenshot

open PageFlow.Calendar

/-! ## Stems -/

/-- The characters that mean something in a path or in a name. -/
def pathMarks : List Char :=
  ['/', '.', '\x00']

theorem not_isLetterOrNumber {c : Char} (mark : c ∈ pathMarks) :
    Text.isLetterOrNumber c = false := by
  have none : pathMarks.all (!Text.isLetterOrNumber ·) = true := by
    decide +kernel
  simpa using List.all_eq_true.mp none c mark

theorem not_keeps {c : Char} (mark : c ∈ pathMarks) : keeps c = false := by
  have none : pathMarks.all (!keeps ·) = true := by decide +kernel
  simpa using List.all_eq_true.mp none c mark

theorem keeps_of_mem_stem {label : String} {c : Char}
    (member : c ∈ (stem label).toList) : keeps c = true := by
  unfold stem at member
  split at member
  · have word : "screenshot".toList.all keeps = true := by decide +kernel
    exact List.all_eq_true.mp word c member
  · rw [String.toList_ofList, List.mem_map] at member
    obtain ⟨d, _, rfl⟩ := member
    split
    · assumption
    · decide +kernel

theorem stem_ne_empty (label : String) : stem label ≠ "" := by
  unfold stem
  split
  · decide
  · rename_i some
    rw [String.isEmpty_iff] at some
    intro none
    rw [String.ofList_eq_empty_iff, List.map_eq_nil_iff,
      String.toList_eq_nil_iff] at none
    exact some none

/-! ## Stamps -/

/-- The widths of a stamp, with the marks behind them. -/
def pictureLayout : List (Nat × Char) :=
  [(4, '-'), (2, '-'), (2, 'T'), (2, '-'), (2, '-'), (2, '-'), (3, 'Z')]

theorem toList_stamp {time : DateTime} (utc : time.offset = some 0) :
    (stamp time).toList = row pictureLayout (stampParts time) := by
  have fixes (c : Char) (digit : c.isDigit = true) :
      (if c == ':' || c == '.' then '-' else c) = c := by
    refine if_neg fun mark => ?_
    simp only [Bool.or_eq_true, beq_iff_eq] at mark
    rcases mark with rfl | rfl <;> exact absurd digit (by decide)
  rw [stamp, String.toList_ofList, toList_stampText utc, map_row fixes]
  rfl

theorem fits_pictureLayout {time : DateTime} (utc : Utc time) :
    Fits pictureLayout (stampParts time) := by
  have fits := fits_stampParts (known_of_utc utc)
  rw [ofMoment_instant utc, fits_iff_widths] at fits
  exact fits_iff_widths.mpr fits

theorem length_stamp {time : DateTime} (utc : Utc time) :
    (stamp time).toList.length = 24 := by
  have zeros : Fits pictureLayout [0, 0, 0, 0, 0, 0, 0] := by
    simp [Fits, pictureLayout]
  rw [toList_stamp utc.offset]
  exact length_row (fits_pictureLayout utc) zeros

theorem mem_stamp {time : DateTime} (utc : Utc time) {c : Char}
    (member : c ∈ (stamp time).toList) :
    c.isDigit = true ∨ c = '-' ∨ c = 'T' ∨ c = 'Z' := by
  rw [toList_stamp utc.offset] at member
  rcases mem_row member with digit | mark
  · exact .inl digit
  · simp only [pictureLayout, List.map_cons, List.map_nil, List.mem_cons,
      List.not_mem_nil, or_false] at mark
    grind

theorem lex_stamp {time later : DateTime} (utc : Utc time) (utc' : Utc later)
    (less : millisecondOf (Value.instant time) <
      millisecondOf (Value.instant later)) :
    List.Lex (· < ·) (stamp time).toList (stamp later).toList := by
  have parts := lex_stampParts (known_of_utc utc) less
  rw [ofMoment_instant utc, ofMoment_instant utc'] at parts
  rw [toList_stamp utc.offset, toList_stamp utc'.offset]
  exact lex_row (fits_pictureLayout utc) (fits_pictureLayout utc') parts

theorem stamp_congr {time other : DateTime} (utc : Utc time) (utc' : Utc other)
    (same : millisecondOf (Value.instant time) =
      millisecondOf (Value.instant other)) : stamp time = stamp other := by
  have texts := stampText_congr same
  rw [ofMoment_instant utc, ofMoment_instant utc'] at texts
  rw [stamp, stamp, texts]

/-! ## Names -/

theorem toList_fileName (label : String) (time : DateTime) :
    (fileName label time).toList =
    (stem label).toList ++ '-' :: ((stamp time).toList ++ ".png".toList) := by
  simp [fileName]

theorem notMem_front (label : String) {time : DateTime} (utc : Utc time) :
    ∀ c ∈ pathMarks, c ∉ (stem label).toList ++ '-' :: (stamp time).toList := by
  intro c mark member
  rw [List.mem_append, List.mem_cons] at member
  rcases member with inStem | rfl | inStamp
  · exact absurd (keeps_of_mem_stem inStem) (by simp [not_keeps mark])
  · exact absurd mark (by decide)
  · have other := mem_stamp utc inStamp
    simp only [pathMarks, List.mem_cons, List.not_mem_nil, or_false] at mark
    rcases mark with rfl | rfl | rfl <;> exact absurd other (by decide)

theorem fileName_lt (label : String) {time later : DateTime} (utc : Utc time)
    (utc' : Utc later)
    (less : millisecondOf (Value.instant time) <
      millisecondOf (Value.instant later)) :
    fileName label time < fileName label later := by
  rw [String.lt_iff, ← List.lex_lt, toList_fileName, toList_fileName]
  refine List.Lex.append_left _
    (.cons (lex_append ?_ (lex_stamp utc utc' less) _ _)) _
  rw [length_stamp utc, length_stamp utc']

/-- The stamp of a name stands at the same distance from its end, whatever the
label ends with. -/
theorem stamp_eq_of_fileName_eq {label other : String} {time later : DateTime}
    (utc : Utc time) (utc' : Utc later)
    (same : fileName label time = fileName other later) :
    stamp time = stamp later := by
  have chars := congrArg String.toList same
  rw [toList_fileName, toList_fileName] at chars
  have ends :=
    List.append_inj_right' chars (by simp [length_stamp utc, length_stamp utc'])
  rw [List.cons_inj_right, List.append_left_inj] at ends
  exact String.toList_injective ends

theorem millisecond_eq_of_stamp_eq {time later : DateTime} (utc : Utc time)
    (utc' : Utc later) (same : stamp time = stamp later) :
    millisecondOf (Value.instant time) =
      millisecondOf (Value.instant later) := by
  rcases Int.lt_trichotomy (millisecondOf (Value.instant time))
    (millisecondOf (Value.instant later))
    with less | equal | more
  · have before := lex_stamp utc utc' less
    rw [same] at before
    exact absurd before (irrefl _)
  · exact equal
  · have before := lex_stamp utc' utc more
    rw [same] at before
    exact absurd before (irrefl _)

theorem notMem_fileName (label : String) {time : DateTime} (utc : Utc time) :
    ∀ c ∈ pathMarks, c ∉ ".png".toList → c ∉ (fileName label time).toList := by
  intro c mark suffix
  rw [toList_fileName, ← List.cons_append, ← List.append_assoc, List.mem_append,
    not_or]
  exact ⟨notMem_front label utc c mark, suffix⟩

theorem name_path (directory : Path) (label : String) (time : DateTime) :
    (path directory label time).name = fileName label time := by
  simp [path, Path.child, Path.name]

theorem path_eq_join (directory : Path) (label : String) {time : DateTime}
    (utc : Utc time) :
    path directory label time =
      directory.join (.ofText (fileName label time)) := by
  have long : 24 < (fileName label time).toList.length := by
    simp only [toList_fileName, List.length_append, List.length_cons,
      length_stamp utc]
    omega
  have whole := notMem_fileName label utc '/' (by decide) (by decide)
  have named :=
    Path.ofText_of_notMem whole (fun none => absurd long (by simp [none]))
      (fun dot => absurd long (by simp [dot]))
  rw [named]
  rfl

theorem count_dot (label : String) {time : DateTime} (utc : Utc time) :
    (fileName label time).toList.count '.' = 1 := by
  have front := List.count_eq_zero.mpr (notMem_front label utc '.' (by decide))
  rw [toList_fileName, ← List.cons_append, ← List.append_assoc,
    List.count_append, front]
  decide

theorem fileName_lt_iff {label : String} {time later : DateTime}
    (utc : Utc time) (utc' : Utc later) :
    fileName label time < fileName label later ↔
      millisecondOf (Value.instant time) <
        millisecondOf (Value.instant later) := by
  refine ⟨fun before => ?_, fileName_lt label utc utc'⟩
  rcases Int.lt_trichotomy (millisecondOf (Value.instant time))
    (millisecondOf (Value.instant later))
    with less | equal | more
  · exact less
  · rw [fileName, fileName, stamp_congr utc utc' equal] at before
    exact absurd before (String.lt_irrefl _)
  · exact absurd before (String.lt_asymm (fileName_lt label utc' utc more))

/-- The screenshot of a label at a time of Greenwich is a child of the
directory. Its name is a stem of letters, numbers, hyphens and underscores, a
stamp of 24 characters and the suffix, and says nothing else about where the
file is. Times in different milliseconds have different paths, whatever the
labels, and names of one label are ordered like the milliseconds. -/
theorem path_safe_and_ordered (directory : Path) (label : String)
    {time : DateTime} (utc : Utc time) :
    (path directory label time =
        directory.join (.ofText (fileName label time)) ∧
      (path directory label time).parent = directory ∧
      (path directory label time).name = fileName label time) ∧
    (fileName label time = stem label ++ "-" ++ stamp time ++ ".png" ∧
      stem label ≠ "" ∧
      (∀ c ∈ (stem label).toList,
        Text.isLetterOrNumber c = true ∨ c = '-' ∨ c = '_') ∧
      (stamp time).toList.length = 24) ∧
    ('/' ∉ (fileName label time).toList ∧
      '\x00' ∉ (fileName label time).toList ∧
      ¬ ['.', '.'] <:+: (fileName label time).toList ∧
      ∀ c, Text.isLetterOrNumber c = true → c ≠ '/' ∧ c ≠ '.' ∧ c ≠ '\x00') ∧
    ∀ later, Utc later →
      (∀ elsewhere other,
        millisecondOf (Value.instant time) ≠
          millisecondOf (Value.instant later) →
        path directory label time ≠ path elsewhere other later) ∧
      (fileName label time < fileName label later ↔
        millisecondOf (Value.instant time) <
          millisecondOf (Value.instant later)) := by
  refine ⟨⟨path_eq_join directory label utc, ?_, name_path _ _ _⟩,
    ⟨rfl, stem_ne_empty label, ?_, length_stamp utc⟩, ⟨?_, ?_, ?_, ?_⟩,
    fun later utc' => ⟨?_, fileName_lt_iff utc utc'⟩⟩
  · simp [path, Path.child, Path.parent]
  · intro c member
    simpa [keeps, or_assoc] using keeps_of_mem_stem member
  · exact notMem_fileName label utc '/' (by decide) (by decide)
  · exact notMem_fileName label utc '\x00' (by decide) (by decide)
  · intro dots
    have twice := dots.sublist.count_le '.'
    rw [count_dot label utc] at twice
    exact absurd twice (by decide)
  · intro c letter
    have other : c ∉ pathMarks := fun mark =>
      Bool.noConfusion (letter.symm.trans (not_isLetterOrNumber mark))
    simpa [pathMarks] using other
  · intro elsewhere other different same
    have names := congrArg Path.name same
    rw [name_path, name_path] at names
    exact different
      (millisecond_eq_of_stamp_eq utc utc'
        (stamp_eq_of_fileName_eq utc utc' names))

/-- At the end of a leap day, for a label that is the path of another
directory. -/
theorem path_safe_and_ordered_leap_day :
    Utc ⟨⟨2024, 2, 29⟩, 23, 59, 59, 999000, some 0⟩ ∧
    Utc ⟨⟨2024, 3, 1⟩, 0, 0, 0, 0, some 0⟩ ∧
    path (.ofText "shots") "../login" ⟨⟨2024, 2, 29⟩, 23, 59, 59,
        999000, some 0⟩ =
      .ofText "shots/___login-2024-02-29T23-59-59-999Z.png" ∧
    fileName "../login" ⟨⟨2024, 2, 29⟩, 23, 59, 59, 999000, some 0⟩ <
      fileName "../login" ⟨⟨2024, 3, 1⟩, 0, 0, 0, 0, some 0⟩ := by
  have utc : Utc ⟨⟨2024, 2, 29⟩, 23, 59, 59, 999000, some 0⟩ :=
    ⟨by decide, by decide, by decide, by decide, by decide, rfl⟩
  have utc' : Utc ⟨⟨2024, 3, 1⟩, 0, 0, 0, 0, some 0⟩ :=
    ⟨by decide, by decide, by decide, by decide, by decide, rfl⟩
  obtain ⟨_, _, _, order⟩ :=
    path_safe_and_ordered (.ofText "shots") "../login" utc
  exact ⟨utc, utc', by decide +kernel, (order _ utc').2.mpr (by decide +kernel)⟩

end PageFlow.Screenshot
