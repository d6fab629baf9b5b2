import PageFlow.Decimal.Shortest

/-!
# Layout of numbers

The text of a double precision number: its shortest digits, positional between
10^-4 and 10^16 and with an exponent of at least two digits elsewhere; and fixed
places after the point.
-/

namespace PageFlow.Decimal

/-- At least `width` characters, zeros in front. -/
def padZeros (width : Nat) (digits : List Char) : List Char :=
  List.replicate (width - digits.length) '0' ++ digits

def natDigits (n : Nat) : List Char :=
  Nat.toDigits 10 n

def intText (n : Int) : String :=
  if n < 0 then "-" ++ String.ofList (natDigits n.natAbs)
    else String.ofList (natDigits n.natAbs)

/-- Which decimals are written without an exponent: those whose point lies more
than `least` and at most `most` places after the front of the digits. -/
structure Positional where
  least : Int
  most : Int

/-- Numbers from 10^-4 up to 10^16 are positional. -/
def Positional.standard : Positional := ⟨-4, 16⟩

/-- The text of a positive decimal. A whole number keeps one zero after the
point. -/
def Scaled.text (range : Positional) (decimal : Scaled) : List Char :=
  let digits := natDigits decimal.digits
  let count : Int := digits.length
  let point := count + decimal.exponent
  if range.least < point ∧ point ≤ range.most then
    if point ≤ 0 then '0' :: '.' ::
      (List.replicate (-point).toNat '0' ++ digits)
    else if count ≤ point then
      digits ++ List.replicate (point - count).toNat '0' ++ ['.', '0']
    else digits.take point.toNat ++ '.' :: digits.drop point.toNat
  else
    let power := point - 1
    let fraction := match digits.drop 1 with
      | [] => []
      | more => '.' :: more
    digits.take 1 ++ fraction ++ 'e' :: (if power < 0 then '-' else '+') ::
      padZeros 2 (natDigits power.natAbs)

namespace Binary64

/-- The text of a number: shortest digits that read back. -/
def text : Binary64 → String
  | .nan => "nan"
  | .infinite negative => if negative then "-inf" else "inf"
  | .finite negative units =>
    let body :=
      if units = 0 then ['0', '.', '0']
        else (shortest units).text Positional.standard
    String.ofList (if negative then '-' :: body else body)

end Binary64

/-- The text of `num / den` with `places` digits after the point; a tie of the
exact quotient goes to the even last digit. -/
def fixedText (places num den : Nat) : String :=
  let scaled := roundDiv (num * Nat.pow 10 places) den
  let digits := padZeros (places + 1) (natDigits scaled)
  let whole := digits.length - places
  String.ofList (digits.take whole ++ '.' :: digits.drop whole)

/-- Fixed places of a finite number; the places are those of its exact value. -/
def Binary64.fixed (places : Nat) : Binary64 → String
  | .finite negative units =>
    (if negative then "-" else "") ++ fixedText places units Binary64.one
  | other => other.text

end PageFlow.Decimal
