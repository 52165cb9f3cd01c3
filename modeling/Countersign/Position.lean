
namespace Countersign

def position? (n : Nat) (i : Int) : Option Nat :=
  let j := if i < 0 then n + i else i
  if 0 ≤ j ∧ j < n then some j.toNat else none

theorem position?_natCast (n i : Nat) : position? n i = if i < n then some i else none := by
  simp only [position?]
  split <;> split <;> grind

end Countersign
