import PageFlow.Decimal.Rounding

/-!
# Double precision numbers

A finite number is a sign and a whole number of units of 2^-1074, the smallest
positive number of the format. All arithmetic is exact on units and rounds once
to the nearest representable number, a tie going to the even significand.
-/

namespace PageFlow.Decimal

/-- A double precision number. -/
inductive Binary64 where
  | finite (negative : Bool) (units : Nat)
  | infinite (negative : Bool)
  | nan
  deriving DecidableEq, Repr, Inhabited

namespace Binary64

/-- Units in one. -/
def one : Nat := Nat.pow 2 1074

/-- First number of units beyond the largest finite number. -/
def overflow : Nat := Nat.pow 2 2098

/-- Distance between neighbouring numbers at `units`: significands have 53
bits. -/
def spacing (units : Nat) : Nat :=
  Nat.pow 2 (Nat.log2 units - 52)

/-- The number nearest to `num / den`. -/
def ofRatio (negative : Bool) (num den : Nat) : Binary64 :=
  let scaled := num * one
  let gap := spacing (scaled / den)
  let units := roundDiv scaled (den * gap) * gap
  if units < overflow then .finite negative units else .infinite negative

def ofInt (n : Int) : Binary64 :=
  ofRatio (n < 0) n.natAbs 1

/-- The number nearest to `digits · 10^exponent`. Exponents far outside the
range of the format are settled by the count of digits. -/
def ofDecimal (negative : Bool) (digits : Nat) (exponent : Int) : Binary64 :=
  let magnitude := exponent + (Nat.log2 digits / 3 + 1 : Nat)
  if digits = 0 ∨ magnitude < -400 then .finite negative 0
  else if exponent + (Nat.log2 digits / 4 : Nat) > 400 then .infinite negative
  else if 0 ≤ exponent then
    ofRatio negative (digits * Nat.pow 10 exponent.toNat) 1
  else ofRatio negative digits (Nat.pow 10 (-exponent).toNat)

/-- Finite, neither infinite nor the undefined number. -/
def isFinite : Binary64 → Bool
  | .finite .. => true
  | _ => false

/-- The integer that a number is equal to. -/
def toInt? : Binary64 → Option Int
  | .finite negative units =>
    if units % one = 0 then
      let n : Int := (units / one : Nat)
      some (if negative then -n else n)
    else none
  | _ => none

def isPositive : Binary64 → Bool
  | .finite negative units => !negative && units != 0
  | .infinite negative => !negative
  | .nan => false

/-- Below zero. The negative zero is not. -/
def isNegative : Binary64 → Bool
  | .finite negative units => negative && units != 0
  | .infinite negative => negative
  | .nan => false

/-- The quotient by a positive whole number. -/
def divNat (x : Binary64) (n : Nat) : Binary64 :=
  match x with
  | .finite negative units => ofRatio negative units (one * n)
  | other => other

/-- The product with a positive whole number. -/
def mulNat (x : Binary64) (n : Nat) : Binary64 :=
  match x with
  | .finite negative units => ofRatio negative (units * n) one
  | other => other

/-- The product. Zero and infinity have none. -/
def mul : Binary64 → Binary64 → Binary64
  | .finite n u, .finite m v => ofRatio (n != m) (u * v) (one * one)
  | .nan, _ => .nan
  | _, .nan => .nan
  | .infinite n, .infinite m => .infinite (n != m)
  | .infinite n, .finite m v => if v = 0 then .nan else .infinite (n != m)
  | .finite n u, .infinite m => if u = 0 then .nan else .infinite (n != m)

/-- The sum. Infinities of both signs have none. -/
def add : Binary64 → Binary64 → Binary64
  | .finite n u, .finite m v =>
    if n = m then ofRatio n (u + v) one
    else if u = v then .finite false 0
    else if v < u then ofRatio n (u - v) one
    else ofRatio m (v - u) one
  | .nan, _ => .nan
  | _, .nan => .nan
  | .infinite n, .infinite m => if n = m then .infinite n else .nan
  | .infinite n, _ => .infinite n
  | _, .infinite m => .infinite m

def negate : Binary64 → Binary64
  | .finite negative units => .finite (!negative) units
  | .infinite negative => .infinite (!negative)
  | .nan => .nan

/-- The integer nearest to a finite number; a tie goes to the even one. -/
def roundToInt? : Binary64 → Option Int
  | .finite negative units =>
    let n : Int := (roundDiv units one : Nat)
    some (if negative then -n else n)
  | _ => none

/-- Signed units, which order the finite numbers. -/
def signedUnits (negative : Bool) (units : Nat) : Int :=
  if negative then -(units : Int) else units

/-- Numeric equality: the zeros are equal, the undefined number differs from
itself. -/
def equal : Binary64 → Binary64 → Bool
  | .finite n u, .finite m v => signedUnits n u == signedUnits m v
  | .infinite n, .infinite m => n == m
  | _, _ => false

end Binary64

end PageFlow.Decimal
