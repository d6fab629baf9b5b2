import PageFlow.Decimal.Layout

/-!
# Numbers with a chosen number of digits

The text of a double precision number with a power of ten and so many places
after the point, and the general form: so many significant digits, positional
where that is short enough. The exact value is rounded once, a tie going to the
even digit.
-/

namespace PageFlow.Decimal

/-- The exponent of the first digit and the digits of a number of units,
`places` of them after the first. -/
def roundedDigits (places units : Nat) : Int × Nat :=
  if units = 0 then (0, 0)
  else
    let exponent := leadingExponent units
    let shift := exponent - (places : Int)
    let digits :=
      if 0 ≤ shift then roundDiv units (Binary64.one * Nat.pow 10 shift.toNat)
      else roundDiv (units * Nat.pow 10 (-shift).toNat) Binary64.one
    if digits = Nat.pow 10 (places + 1) then (exponent + 1, digits / 10)
      else (exponent, digits)

/-- Drops zeros at the end of a fraction, and the point when nothing is behind
it. -/
def dropZeros (s : List Char) : List Char :=
  if s.contains '.' then
    match s.reverse.dropWhile (· = '0') with
    | '.' :: rest => rest.reverse
    | rest => rest.reverse
  else s

/-- A point between the first digit and the others. -/
def pointed (digits : List Char) : List Char :=
  match digits with
  | first :: second :: rest => first :: '.' :: second :: rest
  | short => short

/-- The mark, the sign and at least two digits of an exponent. -/
def exponentText (exponent : Int) : List Char :=
  'e' :: (if exponent < 0 then '-' else '+') :: padZeros 2
    (natDigits exponent.natAbs)

/-- With a power of ten and so many places. -/
def scientificText (places units : Nat) : List Char :=
  let (exponent, digits) := roundedDigits places units
  pointed (padZeros (places + 1) (natDigits digits)) ++ exponentText exponent

/-- With so many significant digits, positional from 10^-4 up to that many
digits before the point. Zeros at the end are dropped unless they are to be
kept. -/
def generalText (significant : Nat) (keepZeros : Bool) (units : Nat) :
    List Char :=
  let significant := max 1 significant
  let (exponent, digits) := roundedDigits (significant - 1) units
  let trim (s : List Char) : List Char := if keepZeros then s else dropZeros s
  if -4 ≤ exponent ∧ exponent < significant then
    let places := ((significant : Int) - 1 - exponent).toNat
    let text := (fixedText places units Binary64.one).toList
    trim (if places = 0 then text.filter (· ≠ '.') else text)
  else trim (pointed (padZeros significant (natDigits digits))) ++
    exponentText exponent

end PageFlow.Decimal
