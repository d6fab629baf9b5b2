import PageFlow.Flow
import PageFlow.Json

/-!
# Deciding equality

Documents, values and flows are compared part by part, so that what a reader
makes of a fixed text can be evaluated.
-/

namespace PageFlow

/-! ## Documents -/

namespace Json

mutual

/-- Two documents agree in all their parts. -/
def same : Json → Json → Bool
  | .null, .null => true
  | .bool a, .bool b => a == b
  | .int m, .int n => m == n
  | .float x, .float y => decide (x = y)
  | .text s, .text t => s == t
  | .array items, .array others => sameItems items others
  | .object members, .object others => sameMembers members others
  | _, _ => false

def sameItems : List Json → List Json → Bool
  | [], [] => true
  | item :: items, other :: others => same item other && sameItems items others
  | _, _ => false

def sameMembers : List (String × Json) → List (String × Json) → Bool
  | [], [] => true
  | (name, item) :: members, (label, other) :: others =>
    name == label && same item other && sameMembers members others
  | _, _ => false

end

mutual

theorem same_iff : ∀ {a b : Json}, same a b = true ↔ a = b
  | .array items, b => by cases b <;> simp [same, sameItems_iff]
  | .object members, b => by cases b <;> simp [same, sameMembers_iff]
  | .null, b | .bool _, b | .int _, b | .float _, b | .text _, b => by
      cases b <;> simp [same]

theorem sameItems_iff : ∀ {items others : List Json},
    sameItems items others = true ↔ items = others
  | [], others => by cases others <;> simp [sameItems]
  | item :: items, others => by
      cases others <;> simp [sameItems, same_iff, sameItems_iff]

theorem sameMembers_iff : ∀ {members others : List (String × Json)},
    sameMembers members others = true ↔ members = others
  | [], others => by cases others <;> simp [sameMembers]
  | (name, item) :: members, others => by
      cases others <;>
        simp [sameMembers, same_iff, sameMembers_iff, Prod.ext_iff]

end

instance : DecidableEq Json :=
  fun _ _ => decidable_of_iff _ same_iff

end Json

/-! ## Values -/

namespace Value

mutual

/-- Two values agree in all their parts. -/
def same : Value → Value → Bool
  | .null, .null => true
  | .bool a, .bool b => a == b
  | .int m, .int n => m == n
  | .float x, .float y => decide (x = y)
  | .text s, .text t => s == t
  | .list items, .list others => sameItems items others
  | .dict entries, .dict others => sameEntries entries others
  | .bytes data, .bytes other => data == other
  | .date day, .date other => decide (day = other)
  | .time moment, .time other => decide (moment = other)
  | .set items, .set others => sameItems items others
  | .pair first second, .pair third fourth =>
    same first third && same second fourth
  | .knot mapping, .knot other => mapping == other
  | _, _ => false

def sameItems : List Value → List Value → Bool
  | [], [] => true
  | item :: items, other :: others => same item other && sameItems items others
  | _, _ => false

def sameEntries : List (Value × Value) → List (Value × Value) → Bool
  | [], [] => true
  | (key, value) :: entries, (other, datum) :: others =>
    same key other && same value datum && sameEntries entries others
  | _, _ => false

end

mutual

theorem same_iff : ∀ {a b : Value}, same a b = true ↔ a = b
  | .list items, b | .set items, b => by
      cases b <;> simp [same, sameItems_iff]
  | .dict entries, b => by cases b <;> simp [same, sameEntries_iff]
  | .pair first second, b => by
      cases b <;> simp [same, @same_iff first, @same_iff second]
  | .null, b | .bool _, b | .int _, b | .float _, b | .text _, b
  | .bytes _, b | .date _, b | .time _, b | .knot _, b => by
      cases b <;> simp [same]

theorem sameItems_iff : ∀ {items others : List Value},
    sameItems items others = true ↔ items = others
  | [], others => by cases others <;> simp [sameItems]
  | item :: items, others => by
      cases others <;> simp [sameItems, @same_iff item, @sameItems_iff items]

theorem sameEntries_iff : ∀ {entries others : List (Value × Value)},
    sameEntries entries others = true ↔ entries = others
  | [], others => by cases others <;> simp [sameEntries]
  | (key, value) :: entries, others => by
      cases others <;>
        simp [sameEntries, @same_iff key, @same_iff value,
          @sameEntries_iff entries, Prod.ext_iff]

end

instance : DecidableEq Value :=
  fun _ _ => decidable_of_iff _ same_iff

end Value

/-! ## Flows -/

deriving instance DecidableEq for Step

deriving instance DecidableEq for Flow

end PageFlow
