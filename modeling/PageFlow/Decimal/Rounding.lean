/-!
# Rounding quotients

Division of natural numbers to the nearest whole number, a half going to the
even neighbour.
-/

namespace PageFlow.Decimal

/-- The whole number nearest to `num / den`; a tie goes to the even one. -/
def roundDiv (num den : Nat) : Nat :=
  let quotient := num / den
  let twice := 2 * (num % den)
  if twice < den then quotient
  else if den < twice then quotient + 1
  else if quotient % 2 = 0 then quotient
  else quotient + 1

/-- The result is never more than half a unit away. -/
theorem roundDiv_near (num den : Nat) (positive : 0 < den) :
    2 * num ≤ (2 * roundDiv num den + 1) * den ∧ (2 * roundDiv num den) * den ≤
      2 * num + den := by
  have split := Nat.div_add_mod num den
  have small := Nat.mod_lt num positive
  generalize quotientIs : num / den = quotient at *
  generalize remainderIs : num % den = remainder at *
  have expand : ∀ k : Nat, (2 * k) * den = 2 * (den * k) := fun k => by
    rw [Nat.mul_assoc, Nat.mul_comm k den]
  unfold roundDiv
  simp only [quotientIs, remainderIs]
  split
  · rw [Nat.add_mul, expand]; omega
  · split
    · rw [Nat.add_mul, expand, Nat.mul_add]; omega
    · split
      · rw [Nat.add_mul, expand]; omega
      · rw [Nat.add_mul, expand, Nat.mul_add]; omega

end PageFlow.Decimal
