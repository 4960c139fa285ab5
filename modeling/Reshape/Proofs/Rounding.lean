/-
Integers as floats.

The nearest float to an integer of 64 bits is a number: rounding moves the mantissa by a few places at most, so the
exponent stays far below the one that stands for infinity.

* `isFinite_toFloat` — the float of an integer without sign is finite.
-/
import Mathlib

namespace Reshape

open Float.Model

namespace Rounding

/-- Neither infinite nor out of the range of floats: a zero, or a mantissa with an exponent that is not too great. -/
def Moderate : UnpackedFloat → Prop
  | .zero _ => True
  | .finite _ _ e _ => e ≤ 900
  | _ => False

/-! ### Packing -/

theorem isFinite_unpack {b : BitVec Format.binary64.numBits} (h : UnpackedFloat.unpackExponent b ≠ -1#_) :
    (UnpackedFloat.unpack Format.binary64 b).isFinite = true := by
  unfold UnpackedFloat.unpack
  simp only [if_neg h]
  split
  · split <;> rfl
  · rfl

theorem unpackExponent_pack {f : UnpackedFloat} (h : Moderate f) :
    UnpackedFloat.unpackExponent (UnpackedFloat.pack Format.binary64 f) ≠ -1#_ := by
  cases f with
  | infinity _ => exact h.elim
  | notANumber => exact h.elim
  | zero s =>
    rw [UnpackedFloat.pack, UnpackedFloat.packedZero, UnpackedFloat.unpackExponent_packComponents]
    decide
  | finite s m e hm =>
    have hbiased : (e + 1023 + 52).toNat < 2047 := by
      have he : e ≤ 900 := h
      omega
    unfold UnpackedFloat.pack
    dsimp only
    rw [if_neg (by simp [Format.exponentBias]; omega)]
    split
    · intro hall
      rw [UnpackedFloat.unpackExponent_packComponents] at hall
      have hall := congrArg BitVec.toNat hall
      simp [Format.exponentBias] at hall
      omega
    · rw [UnpackedFloat.unpackExponent_packComponents]
      decide

/-! ### Shifting -/

theorem mantissa_shiftRight_le (em : UnpackedFloat.ExtendedMantissa) (n : Nat) :
    (em >>> n).mantissa ≤ em.mantissa := by
  induction n with
  | zero => exact Nat.le_refl _
  | succ n ih => exact (Nat.div_le_self (em >>> n).mantissa 2).trans ih

theorem roundedMantissa_le (em : UnpackedFloat.ExtendedMantissa) : em.roundedMantissa ≤ em.mantissa + 1 := by
  obtain ⟨m, round, sticky⟩ := em
  cases round <;> cases sticky
  · exact Nat.le_succ m
  · exact Nat.le_succ m
  · exact Nat.add_le_add_left (Nat.le_of_lt_succ (Nat.mod_lt m (by decide))) m
  · exact Nat.le_refl _

variable {m : Nat} {e : Int}

/-- Shifting to the exponent of the format takes places off the mantissa, at most all. -/
theorem shiftToTargetExponent_le (he : -1074 ≤ e) :
    (UnpackedFloat.shiftToTargetExponent Format.binary64 m e .exact).1.mantissa ≤ m ∧
      e ≤ (UnpackedFloat.shiftToTargetExponent Format.binary64 m e .exact).2 ∧
        (UnpackedFloat.shiftToTargetExponent Format.binary64 m e .exact).2 ≤ e + m.log2 := by
  refine ⟨mantissa_shiftRight_le _ _, ?_, ?_⟩
  · exact Int.le_add_of_nonneg_right (Int.natCast_nonneg _)
  · have htarget : Format.binary64.targetExponent (totalExponent m e) ≤ e + m.log2 := by
      simp [Format.targetExponent, totalExponent, Format.minExponent, Format.mantissaBits]
      omega
    show e + ((_ : Int).toNat : Int) ≤ _
    omega

theorem log2_lt {n k : Nat} (h : n < 2 ^ (k + 1)) : n.log2 < k + 1 := by
  by_cases hn : n = 0
  · subst hn
    exact Nat.succ_pos k
  · exact (Nat.log2_lt hn).2 h

/-- A mantissa of up to 116 bits is rounded to a float. -/
theorem moderate_roundWithAccuracy (s : UnpackedFloat.Sign) (hm : m < 2 ^ 116) (he : -1074 ≤ e) (he' : e ≤ 0) :
    Moderate (UnpackedFloat.roundWithAccuracy Format.binary64 s m e .exact) := by
  obtain ⟨hmantissa, hlow, hhigh⟩ := shiftToTargetExponent_le (m := m) he
  unfold UnpackedFloat.roundWithAccuracy
  generalize UnpackedFloat.shiftToTargetExponent Format.binary64 m e .exact = first at *
  have hrounded : first.1.roundedMantissa < 2 ^ 117 := by
    have := roundedMantissa_le first.1
    omega
  have hsecond := (shiftToTargetExponent_le (m := first.1.roundedMantissa) (he.trans hlow)).2.2
  have hlog : m.log2 < 116 := log2_lt hm
  have hlog' : first.1.roundedMantissa.log2 < 117 := log2_lt hrounded
  dsimp only
  split
  · trivial
  · show _ ≤ (900 : Int)
    omega

/-- A natural number below `2^64` is rounded to a float: at most 52 places are put behind it first. -/
theorem moderate_ofNat {n : Nat} (hn : n < 2 ^ 64) : Moderate (UnpackedFloat.ofNat Format.binary64 n) := by
  unfold UnpackedFloat.ofNat UnpackedFloat.ofInt UnpackedFloat.normalize
  split
  · rename_i h
    have := Int.compare_eq_lt.1 h
    omega
  · trivial
  · unfold UnpackedFloat.round UnpackedFloat.decreaseExponent
    have hlog : n.log2 < 64 := log2_lt hn
    have htarget : Format.binary64.targetExponent (totalExponent n 0) = (n.log2 : Int) - 52 := by
      simp [Format.targetExponent, totalExponent, Format.minExponent, Format.mantissaBits]
      omega
    have hplaces : (0 - ((n.log2 : Int) - 52)).toNat ≤ 52 := by omega
    rw [Int.toNat_natCast, htarget]
    refine moderate_roundWithAccuracy _ ?_ (by omega) (by omega)
    calc n <<< (0 - ((n.log2 : Int) - 52)).toNat
        = n * 2 ^ (0 - ((n.log2 : Int) - 52)).toNat := Nat.shiftLeft_eq _ _
      _ ≤ n * 2 ^ 52 := Nat.mul_le_mul_left n (Nat.pow_le_pow_right (by decide) hplaces)
      _ < 2 ^ 116 := by omega

end Rounding

/-- The float of an integer without sign is a number. -/
theorem isFinite_toFloat (n : UInt64) : n.toFloat.isFinite = true :=
  Rounding.isFinite_unpack (Rounding.unpackExponent_pack (Rounding.moderate_ofNat n.toNat_lt))

end Reshape
