import PageFlow.Text.CaseTable
import PageFlow.Text.Ranges

/-!
# Lower case

Full lower-case mapping of a text. Every character is mapped on its own, apart
from the capital sigma: it becomes a final sigma at the end of a word, that is,
when a cased character stands before it and none after it, ignorable characters
passed over.
-/

namespace PageFlow.Text

/-- The character belongs to the run. -/
def CaseRun.covers (run : CaseRun) (point : Nat) : Bool :=
  run.first ≤ point && point ≤ run.last && (point - run.first) % run.stride == 0

def lowerChar (c : Char) : List Char :=
  let point := c.toNat
  if point = 0x130 then ['i', Char.ofNat 0x307]
  else match caseRuns.find? (·.covers point) with
    | some run => [Char.ofNat ((point : Int) + run.shift).toNat]
    | none => [c]

/-- The nearest character that is not ignorable has case. -/
def nearestIsCased (side : List Char) : Bool :=
  match side.dropWhile fun c => inRanges caseIgnorableRanges c.toNat with
  | [] => false
  | c :: _ => inRanges casedRanges c.toNat

/-- Lower case of a text whose characters before it are `before`, nearest
first. -/
def lowerAfter (before : List Char) : List Char → List Char
  | [] => []
  | c :: rest =>
    let mapped :=
      if c.toNat = 0x3a3 then
        [Char.ofNat (if nearestIsCased before && !nearestIsCased rest then 0x3c2
          else 0x3c3)]
      else lowerChar c
    mapped ++ lowerAfter (c :: before) rest

def lowerChars (s : List Char) : List Char :=
  lowerAfter [] s

def lower (s : String) : String :=
  String.ofList (lowerChars s.toList)

/-- Lower case of the ASCII letters only, all else kept. -/
def lowerAscii (s : String) : String :=
  s.map Char.toLower

/-- Upper case of the ASCII letters only, all else kept. -/
def upperAscii (s : String) : String :=
  s.map Char.toUpper

end PageFlow.Text
