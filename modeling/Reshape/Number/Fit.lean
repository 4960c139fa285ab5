/-
Integers of 64 bits.

`fit?` is how an exact result becomes such an integer, if it has room.
-/
namespace Reshape

/-- One more than the greatest integer of 64 bits with sign. -/
def int64Bound : Nat := 0x8000000000000000

/-- The integer in 64 bits, if it fits. -/
def fit? (i : Int) : Option Int64 :=
  if -(int64Bound : Int) ≤ i ∧ i < int64Bound then some (Int64.ofInt i) else none

theorem toInt_of_fit? {i : Int} {n : Int64} (h : fit? i = some n) : n.toInt = i := by
  unfold fit? at h
  split at h
  · rename_i hi
    obtain rfl := Option.some.inj h
    unfold int64Bound at hi
    exact Int64.toInt_ofInt_of_le (by omega) (by omega)
  · cases h

theorem fit?_toInt (i : Int64) : fit? i.toInt = some i := by
  have hle : -2 ^ 63 ≤ i.toInt := i.le_toInt
  have hlt : i.toInt < 2 ^ 63 := i.toInt_lt
  have hfits : -(int64Bound : Int) ≤ i.toInt ∧ i.toInt < int64Bound := ⟨hle, hlt⟩
  rw [fit?, if_pos hfits, Int64.ofInt_toInt]

/-- Every integer but the least has an opposite. -/
theorem fit?_neg {i : Int64} (h : i ≠ Int64.minValue) : fit? (-i.toInt) = some (-i) := by
  have hle : -2 ^ 63 ≤ i.toInt := i.le_toInt
  have hlt : i.toInt < 2 ^ 63 := i.toInt_lt
  have hne : i.toInt ≠ -2 ^ 63 := fun hi => h (Int64.toInt_inj.1 hi)
  have hfits : -(int64Bound : Int) ≤ -i.toInt ∧ -i.toInt < int64Bound := by
    unfold int64Bound
    omega
  rw [fit?, if_pos hfits, Int64.ofInt_neg, Int64.ofInt_toInt]

end Reshape
