import PageFlow.Calendar

/-!
# Reading times

A date and time in its usual form: year, month and day, a `T`, hour, minute and
second, then a fraction and an offset if there are any. Digits of the fraction
behind the sixth are dropped.
-/

namespace PageFlow.Calendar

def numberOf (digits : List Char) : Nat :=
  digits.foldl (fun n c => n * 10 + (c.toNat - 48)) 0

/-- The number that the digits from a place on write. -/
def numberAt (s : List Char) (start length : Nat) : Nat :=
  numberOf ((s.drop start).take length)

/-- The seconds of an offset: `Z`, or a sign with hours, minutes and seconds. -/
def readOffset : List Char → Option Int
  | [] => none
  | 'Z' :: _ => some 0
  | sign :: rest =>
    let digits := rest.filter Char.isDigit
    let seconds : Int :=
      (numberAt digits 0 2 * 3600 + numberAt digits 2 2 * 60 +
        numberAt digits 4 2 : Nat)
    some (if sign = '-' then -seconds else seconds)

def readTime (text : String) : DateTime :=
  let s := text.toList
  let (fraction, zone) := match s.drop 19 with
    | '.' :: more => (more.takeWhile Char.isDigit, more.dropWhile Char.isDigit)
    | more => ([], more)
  { date := ⟨numberAt s 0 4, numberAt s 5 2, numberAt s 8 2⟩
    hour := numberAt s 11 2
    minute := numberAt s 14 2
    second := numberAt s 17 2
    micro := numberOf ((fraction ++ List.replicate 6 '0').take 6)
    offset := readOffset zone }

end PageFlow.Calendar
