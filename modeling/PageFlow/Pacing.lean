import PageFlow.Settings

/-!
# Pacing

Delays in front of clicks and between keys, drawn at random within bounds, so
that input looks like that of a person. They change only when something happens,
never what happens.
-/

namespace PageFlow

/-- The bounds of the delays in milliseconds, and whether there are any. -/
structure Pacing where
  clickLeast : Int
  clickMost : Int
  keyLeast : Int
  keyMost : Int
  enabled : Bool
  deriving DecidableEq, Repr, Inhabited

namespace Pacing

/-- The usual delays. -/
def standard : Pacing := ⟨100, 300, 50, 150, true⟩

def off : Pacing := { standard with enabled := false }

def ofSettings (s : Settings) : Pacing :=
  ⟨s.clickDelay.least, s.clickDelay.most, s.keyDelay.least,
    s.keyDelay.most, s.humanize⟩

/-- A number between two bounds, chosen by any integer. An upper bound below the
lower one counts as equal to it. -/
def within (least most chosen : Int) : Int :=
  least + chosen % (max least most - least + 1)

theorem le_within (least most chosen : Int) :
    least ≤ within least most chosen := by
  have := Int.emod_nonneg chosen (b := max least most - least + 1) (by omega)
  simp only [within]
  omega

theorem within_le (least most chosen : Int) :
    within least most chosen ≤ max least most := by
  have := Int.emod_lt_of_pos chosen (b := max least most - least + 1) (by omega)
  simp only [within]
  omega

end Pacing

end PageFlow
