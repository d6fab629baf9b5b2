import PageFlow.Text.WidthTable
import PageFlow.Text.Ranges

/-!
# Columns of a terminal

How many columns a character takes, and tabs written out up to the next column
that is a multiple of the tab width.
-/

namespace PageFlow.Text

/-- Controls, combining marks and invisible format characters take no column,
wide characters two. -/
def charWidth (c : Char) : Nat :=
  let point := c.toNat
  if 0x20 ≤ point && point < 0x7f then 1
  else if point < 0xa0 || inRanges combiningRanges point ||
      (0x200b ≤ point && point ≤ 0x200f) ||
      (0x2028 ≤ point && point ≤ 0x202e) ||
        (0x2060 ≤ point && point ≤ 0x2063) then 0
  else if inRanges wideRanges point then 2
  else 1

/-- Writes tabs as spaces, at least one each, up to a column that is a multiple
of eight. A line feed starts again at the first column. -/
def expandTabs (column : Nat) : List Char → List Char
  | [] => []
  | c :: rest =>
    if c = '\n' then c :: expandTabs 0 rest
    else if c = '\t' then
      let next := (column / 8 + 1) * 8
      List.replicate (next - column) ' ' ++ expandTabs next rest
    else c :: expandTabs (column + charWidth c) rest

theorem expandTabs_of_notMem {s : List Char} (h : '\t' ∉ s) (column : Nat) :
    expandTabs column s = s := by
  induction s generalizing column with
  | nil => rfl
  | cons c rest ih =>
    have different : c ≠ '\t' := fun equality => h (by simp [equality])
    have absent : '\t' ∉ rest := fun member => h (by simp [member])
    simp only [expandTabs, different, if_false, ih absent]
    split <;> rfl

end PageFlow.Text
