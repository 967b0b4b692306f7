import Mathlib.Order.Basic

/-! Sums of non-negative 64-bit integers, refused where they would overflow. -/

namespace PasswallNode.Foundation

def maxInt64 : Int := 9223372036854775807

/-- The sum of two non-negative integers, or nothing when it leaves the int64 range. -/
def addChecked (a b : Int) : Option Int :=
  if a < 0 ∨ b < 0 ∨ a > maxInt64 - b then none else some (a + b)

theorem addChecked_eq_some {a b sum : Int} :
    addChecked a b = some sum ↔ 0 ≤ a ∧ 0 ≤ b ∧ a + b ≤ maxInt64 ∧ sum = a + b := by
  unfold addChecked
  split
  · rename_i refused
    constructor
    · intro h; cases h
    · rintro ⟨first, second, bound, _⟩; omega
  · rename_i accepted
    rw [Option.some.injEq]
    constructor
    · intro same; omega
    · rintro ⟨_, _, _, rfl⟩; rfl

theorem addChecked_of_le {a b : Int} (first : 0 ≤ a) (second : 0 ≤ b) (bound : a + b ≤ maxInt64) :
    addChecked a b = some (a + b) :=
  addChecked_eq_some.mpr ⟨first, second, bound, rfl⟩

end PasswallNode.Foundation
