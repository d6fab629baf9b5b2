import PageFlow.Text.Quoted

/-!
# UTF-8

Strict decoding of bytes, with the place and the cause of the first fault, and
encoding of texts. A fault covers the longest part that a well-formed sequence
could begin with.
-/

namespace PageFlow.Text

/-- Why bytes are not UTF-8. -/
inductive Utf8Cause
  | invalidStart
  | invalidContinuation
  | unexpectedEnd
  deriving DecidableEq, Repr

/-- A fault of `length` bytes at offset `start`; `byte` is the first of them. -/
structure Utf8Fault where
  start : Nat
  length : Nat
  byte : UInt8
  cause : Utf8Cause
  deriving DecidableEq, Repr

def Utf8Cause.message : Utf8Cause → String
  | .invalidStart => "invalid start byte"
  | .invalidContinuation => "invalid continuation byte"
  | .unexpectedEnd => "unexpected end of data"

/-- The wording of a fault: one byte is named, several are given by their
range. -/
def Utf8Fault.message (fault : Utf8Fault) : String :=
  if fault.length = 1 then
    "'utf-8' codec can't decode byte 0x" ++ String.ofList
      (hexDigits 2 fault.byte.toNat) ++
      " in position " ++ toString fault.start ++ ": " ++ fault.cause.message
  else
    "'utf-8' codec can't decode bytes in position " ++
      toString fault.start ++ "-" ++
      toString (fault.start + fault.length - 1) ++ ": " ++ fault.cause.message

/-- For a first byte: how many bytes follow, and the range of the second one. -/
def sequenceShape (b : UInt8) : Option (Nat × Nat × Nat) :=
  let n := b.toNat
  if 0xc2 ≤ n && n ≤ 0xdf then some (1, 0x80, 0xbf)
  else if n = 0xe0 then some (2, 0xa0, 0xbf)
  else if n = 0xed then some (2, 0x80, 0x9f)
  else if 0xe1 ≤ n && n ≤ 0xef then some (2, 0x80, 0xbf)
  else if n = 0xf0 then some (3, 0x90, 0xbf)
  else if n = 0xf4 then some (3, 0x80, 0x8f)
  else if 0xf1 ≤ n && n ≤ 0xf3 then some (3, 0x80, 0xbf)
  else none

/-- Reads `count` continuation bytes onto `point`, the first one within `low`
and `high`. On a fault, gives the number of bytes that were in order and whether
the input ended. -/
def continuation (low high : Nat) :
    Nat → Nat → List UInt8 → Except (Nat × Bool) (Nat × List UInt8)
  | 0, point, rest => .ok (point, rest)
  | _ + 1, _, [] => .error (0, true)
  | count + 1, point, b :: rest =>
    if low ≤ b.toNat && b.toNat ≤ high then
      match continuation 0x80 0xbf count (point * 64 + b.toNat % 64) rest with
      | .ok result => .ok result
      | .error (good, ended) => .error (good + 1, ended)
    else .error (0, false)

theorem length_of_continuation {low high count point : Nat}
    {input rest : List UInt8} {result : Nat}
    (h : continuation low high count point input = .ok (result, rest)) :
    rest.length ≤ input.length := by
  fun_induction continuation low high count point input with
  | case1 => simp_all
  | case2 => simp at h
  | case3 _ _ _ _ _ _ _ _ equation ih =>
    cases h
    exact Nat.le_succ_of_le (ih equation)
  | case4 => simp at h
  | case5 => simp at h

/-- Decodes bytes that start at `offset` of the whole. -/
def decodeFrom (offset : Nat) (input : List UInt8) :
    Except Utf8Fault (List Char) :=
  match input with
  | [] => .ok []
  | b :: rest =>
    if b.toNat < 0x80 then
      (decodeFrom (offset + 1) rest).map (Char.ofNat b.toNat :: ·)
    else match sequenceShape b with
      | none => .error ⟨offset, 1, b, .invalidStart⟩
      | some (count, low, high) =>
        let lead :=
          if count = 1 then b.toNat % 32 else if count = 2 then b.toNat % 16
            else b.toNat % 8
        match equation : continuation low high count lead rest with
        | .error (good, ended) =>
          .error ⟨offset, good + 1, b,
            if ended then .unexpectedEnd else .invalidContinuation⟩
        | .ok (point, after) =>
          (decodeFrom (offset + 1 + count) after).map (Char.ofNat point :: ·)
termination_by input.length
decreasing_by
  · simp
  · have := length_of_continuation equation
    simp
    omega

def decodeUtf8 (input : List UInt8) : Except Utf8Fault String :=
  (decodeFrom 0 input).map String.ofList

def encodeUtf8 (s : String) : List UInt8 :=
  s.toUTF8.toList

end PageFlow.Text
