/-
Integer operators and the integers themselves.

An operator computes in 64 bits what the same operator gives among all integers, as long as that fits.  Division
truncates toward zero: what is left of the dividend has its sign and is smaller than the divisor (`Division`).  The
least integer divided by -1 does not fit, and the remainder of that division is refused with the quotient, although
nothing is left.

* `Division.iff_of_ne_zero` — there is one quotient and one remainder;
* `BinaryOp.onIntegers_of_isExact` — what comes of an exact result;
* `apply_integers` — results and faults of all operators on integers.
-/
import Mathlib.Tactic.Common
import Reshape.Operator

namespace Reshape

/-! ### Exact results -/

/-- A 64-bit integer has this value. -/
def FitsInt64 (n : Int) : Prop :=
  ∃ i : Int64, i.toInt = n

theorem fit?_eq_some_iff {n : Int} {i : Int64} : fit? n = some i ↔ i.toInt = n :=
  ⟨toInt_of_fit?, fun h => h ▸ fit?_toInt i⟩

theorem fit?_eq_none_iff {n : Int} : fit? n = none ↔ ¬FitsInt64 n := by
  simp only [FitsInt64, ← fit?_eq_some_iff, ← Option.isSome_iff_exists, Option.not_isSome_iff_eq_none]

/-- A dividend is divided: the rest has its sign and is smaller than the divisor. -/
structure Division (dividend divisor quotient rest : Int) : Prop where
  sum : rest + divisor * quotient = dividend
  small : rest.natAbs < divisor.natAbs
  nonneg : 0 ≤ dividend → 0 ≤ rest
  nonpos : dividend ≤ 0 → rest ≤ 0

namespace Division

variable {l r q m : Int}

theorem divisor_ne_zero (h : Division l r q m) : r ≠ 0 := by
  rintro rfl
  exact absurd h.small (Nat.not_lt_zero _)

/-- A divisor other than zero has one quotient and leaves one rest. -/
theorem iff_of_ne_zero (hr : r ≠ 0) : Division l r q m ↔ l.tdiv r = q ∧ l.tmod r = m := by
  constructor
  · intro h
    have hsmall := h.small
    -- the rest has the sign of the dividend, and for each sign there is one
    rcases Int.le_total 0 l with hl | hl
    · exact (Int.tdiv_tmod_unique hl hr).2 ⟨h.sum, h.nonneg hl, by have := h.nonneg hl; omega⟩
    · exact (Int.tdiv_tmod_unique' hl hr).2 ⟨h.sum, by have := h.nonpos hl; omega, h.nonpos hl⟩
  · rintro ⟨rfl, rfl⟩
    refine ⟨by rw [Int.add_comm, Int.mul_tdiv_add_tmod], ?_, Int.tmod_nonneg r, fun hl => ?_⟩
    · rw [Int.natAbs_tmod]
      exact Nat.mod_lt _ (Int.natAbs_pos.2 hr)
    · have hneg := Int.tmod_nonneg r (Int.neg_nonneg_of_nonpos hl)
      rw [Int.neg_tmod] at hneg
      omega

end Division

namespace BinaryOp

/-- The operators `+ - * / %`. -/
def arithmeticOps : List BinaryOp :=
  [add, subtract, multiply, divide, remainder]

/-- The result of an arithmetic operator among all integers. -/
def IsExact (op : BinaryOp) (l r n : Int) : Prop :=
  match op with
  | add => n = l + r
  | subtract => n = l - r
  | multiply => n = l * r
  | divide => ∃ rest, Division l r n rest
  | remainder => ∃ quotient, Division l r quotient n
  | _ => False

variable {op : BinaryOp} {l r : Int64} {n : Int}

theorem isExact_iff_result? {l r : Int} (hr : ¬(op.divides = true ∧ r = 0)) :
    op.IsExact l r n ↔ op.result? l r = some n := by
  have hdivision : op.divides = true → r ≠ 0 := fun h hzero => hr ⟨h, hzero⟩
  cases op with
  | add | subtract | multiply => simp [IsExact, result?, eq_comm]
  | divide => simp [IsExact, result?, Division.iff_of_ne_zero (hdivision rfl)]
  | remainder => simp [IsExact, result?, Division.iff_of_ne_zero (hdivision rfl)]
  | _ => simp [IsExact, result?]

theorem IsExact.not_zero {l r : Int} (h : op.IsExact l r n) : ¬(op.divides = true ∧ r = 0) := by
  rintro ⟨hop, hr⟩
  cases op with
  | divide =>
    obtain ⟨rest, hdivision⟩ := h
    exact hdivision.divisor_ne_zero hr
  | remainder =>
    obtain ⟨quotient, hdivision⟩ := h
    exact hdivision.divisor_ne_zero hr
  | _ => cases hop

/-- There is one exact result, unless the divisor is zero. -/
theorem existsUnique_isExact {l r : Int} (hop : op ∈ arithmeticOps) (hr : ¬(op.divides = true ∧ r = 0)) :
    ∃! n, op.IsExact l r n := by
  obtain ⟨n, hn⟩ : ∃ n, op.result? l r = some n := by
    simp only [arithmeticOps, List.mem_cons, List.not_mem_nil, or_false] at hop
    rcases hop with rfl | rfl | rfl | rfl | rfl
    all_goals exact ⟨_, rfl⟩
  refine ⟨n, (isExact_iff_result? hr).2 hn, fun k hk => ?_⟩
  exact Option.some.inj (((isExact_iff_result? hr).1 hk).symm.trans hn)

/-! ### Operators in 64 bits -/

/-- The one remainder that is refused although it fits. -/
def RefusesRemainder (op : BinaryOp) (l r : Int64) : Prop :=
  op = remainder ∧ l = Int64.minValue ∧ r = -1

instance : Decidable (op.RefusesRemainder l r) :=
  inferInstanceAs (Decidable (_ ∧ _ ∧ _))

theorem toInt_eq_neg_one_iff : r.toInt = -1 ↔ r = -1 := by
  rw [← Int64.toInt_inj]
  exact Iff.rfl

theorem apply_integer (hop : op ∈ arithmeticOps) : op.apply (.integer l) (.integer r) = op.onIntegers l r := by
  simp only [arithmeticOps, List.mem_cons, List.not_mem_nil, or_false] at hop
  rcases hop with rfl | rfl | rfl | rfl | rfl
  all_goals rfl

theorem onIntegers_zero (hop : op.divides = true) : op.onIntegers l 0 = .error .divisionByZero := by
  simp [onIntegers, hop]

theorem onIntegers_of_isExact (h : op.IsExact l.toInt r.toInt n) :
    op.onIntegers l r =
      if op.RefusesRemainder l r then .error (.overflow op l r)
      else
        match fit? n with
        | some i => .ok (.integer i)
        | none => .error (.overflow op l r) := by
  -- what has an exact result gets past the guard against a zero divisor
  have hzero : ¬(op.divides && r == 0) = true := by
    rw [Bool.and_eq_true, beq_iff_eq]
    rintro ⟨hop, rfl⟩
    exact h.not_zero ⟨hop, rfl⟩
  simp only [onIntegers, if_neg hzero, RefusesRemainder, toInt_eq_neg_one_iff, (isExact_iff_result? h.not_zero).1 h,
    Option.bind_some]
  rfl

/-- An arithmetic operator divides by zero, or its exact result is given, or it is refused. -/
theorem onIntegers_cases (hop : op ∈ arithmeticOps) (l r : Int64) :
    (op.divides = true ∧ r = 0 ∧ op.onIntegers l r = .error .divisionByZero) ∨
      ∃ n, op.IsExact l.toInt r.toInt n ∧
        ((∃ i, i.toInt = n ∧ ¬op.RefusesRemainder l r ∧ op.onIntegers l r = .ok (.integer i)) ∨
          (¬FitsInt64 n ∨ op.RefusesRemainder l r) ∧ op.onIntegers l r = .error (.overflow op l r)) := by
  by_cases hzero : op.divides = true ∧ r.toInt = 0
  · obtain rfl : r = 0 := Int64.toInt_inj.1 hzero.2
    exact .inl ⟨hzero.1, rfl, onIntegers_zero hzero.1⟩
  · obtain ⟨n, hn, -⟩ := existsUnique_isExact hop hzero
    refine .inr ⟨n, hn, ?_⟩
    rw [onIntegers_of_isExact hn]
    split
    · rename_i hrefuses
      exact .inr ⟨.inr hrefuses, rfl⟩
    · rename_i hrefuses
      cases hfit : fit? n with
      | some i => exact .inl ⟨i, toInt_of_fit? hfit, hrefuses, rfl⟩
      | none => exact .inr ⟨.inl (fit?_eq_none_iff.1 hfit), rfl⟩

theorem onIntegers_eq_ok_iff (hop : op ∈ arithmeticOps) {v : Value} :
    op.onIntegers l r = .ok v ↔
      ∃ i : Int64, op.IsExact l.toInt r.toInt i.toInt ∧ ¬op.RefusesRemainder l r ∧ v = .integer i := by
  constructor
  · intro h
    rcases onIntegers_cases hop l r with ⟨-, -, h'⟩ | ⟨_, hn, ⟨i, rfl, hrefuses, h'⟩ | ⟨-, h'⟩⟩
    · cases h.symm.trans h'
    · exact ⟨i, hn, hrefuses, Except.ok.inj (h.symm.trans h')⟩
    · cases h.symm.trans h'
  · rintro ⟨i, hi, hrefuses, rfl⟩
    rw [onIntegers_of_isExact hi, if_neg hrefuses, fit?_toInt]

theorem onIntegers_eq_divisionByZero_iff (hop : op ∈ arithmeticOps) :
    op.onIntegers l r = .error .divisionByZero ↔ op.divides = true ∧ r = 0 := by
  constructor
  · intro h
    rcases onIntegers_cases hop l r with ⟨hdiv, hr, -⟩ | ⟨_, -, ⟨_, -, -, h'⟩ | ⟨-, h'⟩⟩
    · exact ⟨hdiv, hr⟩
    · cases h.symm.trans h'
    · cases h.symm.trans h'
  · rintro ⟨hdiv, rfl⟩
    exact onIntegers_zero hdiv

theorem onIntegers_eq_overflow_iff (hop : op ∈ arithmeticOps) :
    op.onIntegers l r = .error (.overflow op l r) ↔
      (∃ n, op.IsExact l.toInt r.toInt n ∧ ¬FitsInt64 n) ∨ op.RefusesRemainder l r := by
  constructor
  · intro h
    rcases onIntegers_cases hop l r with ⟨-, -, h'⟩ | ⟨n, hn, ⟨_, -, -, h'⟩ | ⟨hbad, -⟩⟩
    · cases h.symm.trans h'
    · cases h.symm.trans h'
    · exact hbad.imp_left fun hfits => ⟨n, hn, hfits⟩
  · rintro (⟨n, hn, hfits⟩ | hrefuses)
    · rw [onIntegers_of_isExact hn, fit?_eq_none_iff.2 hfits, ite_self]
    · obtain ⟨rfl, rfl, rfl⟩ := hrefuses
      rfl

/-- Only these two faults come of arithmetic on integers. -/
theorem onIntegers_eq_error (hop : op ∈ arithmeticOps) {e : OperatorError} (h : op.onIntegers l r = .error e) :
    e = .divisionByZero ∨ e = .overflow op l r := by
  rcases onIntegers_cases hop l r with ⟨-, -, h'⟩ | ⟨_, -, ⟨_, -, -, h'⟩ | ⟨-, h'⟩⟩
  · exact .inl (Except.error.inj (h.symm.trans h'))
  · cases h.symm.trans h'
  · exact .inr (Except.error.inj (h.symm.trans h'))

end BinaryOp

/-! ### Results and faults -/

theorem mapError_eq_ok_iff {ε ε' α : Type} {f : ε → ε'} {x : Except ε α} {a : α} :
    x.mapError f = .ok a ↔ x = .ok a := by
  cases x with
  | _ => simp [Except.mapError]

theorem mapError_eq_error_iff {ε ε' α : Type} {f : ε → ε'} {x : Except ε α} {e' : ε'} :
    x.mapError f = .error e' ↔ ∃ e, x = .error e ∧ f e = e' := by
  cases x with
  | _ => simp [Except.mapError]

namespace UnaryOp

theorem negate_of_fits {i k : Int64} (h : k.toInt = -i.toInt) : negate.apply (.integer i) = .ok (.integer k) := by
  rw [apply, ← h, fit?_toInt]

theorem negate_of_not_fits {i : Int64} (h : ¬FitsInt64 (-i.toInt)) :
    negate.apply (.integer i) = .error (.negationOverflow i) := by
  rw [apply, fit?_eq_none_iff.2 h]

theorem negate_eq_ok_iff {i : Int64} {v : Value} :
    negate.apply (.integer i) = .ok v ↔ ∃ k : Int64, k.toInt = -i.toInt ∧ v = .integer k := by
  constructor
  · intro h
    by_cases hfits : FitsInt64 (-i.toInt)
    · obtain ⟨k, hk⟩ := hfits
      exact ⟨k, hk, Except.ok.inj (h.symm.trans (negate_of_fits hk))⟩
    · cases h.symm.trans (negate_of_not_fits hfits)
  · rintro ⟨k, hk, rfl⟩
    exact negate_of_fits hk

theorem negate_eq_error_iff {i : Int64} {e : OperatorError} :
    negate.apply (.integer i) = .error e ↔ ¬FitsInt64 (-i.toInt) ∧ e = .negationOverflow i := by
  constructor
  · intro h
    by_cases hfits : FitsInt64 (-i.toInt)
    · obtain ⟨k, hk⟩ := hfits
      cases h.symm.trans (negate_of_fits hk)
    · exact ⟨hfits, Except.error.inj (h.symm.trans (negate_of_not_fits hfits))⟩
  · rintro ⟨hfits, rfl⟩
    exact negate_of_not_fits hfits

end UnaryOp

open BinaryOp in
/-- Arithmetic operators give the exact result where it fits, fault on a zero divisor, and fault with an overflow where
the exact result does not fit, and besides for the remainder of the least integer by -1. -/
theorem apply_integers :
    (∀ op ∈ arithmeticOps, ∀ l r : Int64,
      let outcome := (op.apply (.integer l) (.integer r)).mapError OperatorError.cause
      (¬(op.divides = true ∧ r = 0) → ∃! n, op.IsExact l.toInt r.toInt n) ∧
        (∀ v, outcome = .ok v ↔
          ∃ i : Int64, op.IsExact l.toInt r.toInt i.toInt ∧ ¬op.RefusesRemainder l r ∧ v = .integer i) ∧
        (outcome = .error .divisionByZero ↔ op.divides = true ∧ r = 0) ∧
        (outcome = .error (.invalidArgument s!"integer overflow in {l} {op.symbol} {r}") ↔
          (∃ n, op.IsExact l.toInt r.toInt n ∧ ¬FitsInt64 n) ∨ op.RefusesRemainder l r)) ∧
      ∀ i : Int64,
        let outcome := (UnaryOp.negate.apply (.integer i)).mapError OperatorError.cause
        (∀ v, outcome = .ok v ↔ ∃ k : Int64, k.toInt = -i.toInt ∧ v = .integer k) ∧
          outcome ≠ .error .divisionByZero ∧
          (outcome = .error (.invalidArgument s!"integer overflow in -({i})") ↔ ¬FitsInt64 (-i.toInt)) := by
  constructor
  · intro op hop l r outcome
    have hunique : ¬(op.divides = true ∧ r = 0) → ∃! n, op.IsExact l.toInt r.toInt n := by
      rw [← Int64.toInt_inj]
      exact existsUnique_isExact hop
    have hfault : ∀ {c}, outcome = .error c ↔ ∃ e, op.onIntegers l r = .error e ∧ e.cause = c := by
      simp only [outcome, apply_integer hop, mapError_eq_error_iff, implies_true]
    refine ⟨hunique, fun v => ?_, ?_, ?_⟩
    · rw [← onIntegers_eq_ok_iff hop, ← apply_integer hop]
      exact mapError_eq_ok_iff
    · rw [hfault, ← onIntegers_eq_divisionByZero_iff hop]
      refine ⟨fun ⟨e, he, hcause⟩ => ?_, fun h => ⟨_, h, rfl⟩⟩
      rcases onIntegers_eq_error hop he with rfl | rfl
      · exact he
      · cases hcause
    · rw [hfault, ← onIntegers_eq_overflow_iff hop]
      refine ⟨fun ⟨e, he, hcause⟩ => ?_, fun h => ⟨_, h, rfl⟩⟩
      rcases onIntegers_eq_error hop he with rfl | rfl
      · cases hcause
      · exact he
  · intro i outcome
    have hfault : ∀ {c}, outcome = .error c ↔ ¬FitsInt64 (-i.toInt) ∧ (OperatorError.negationOverflow i).cause = c := by
      simp only [outcome, mapError_eq_error_iff, UnaryOp.negate_eq_error_iff]
      simp
    refine ⟨fun v => mapError_eq_ok_iff.trans UnaryOp.negate_eq_ok_iff, ?_, ?_⟩
    · rw [ne_eq, hfault]
      rintro ⟨-, hcause⟩
      cases hcause
    · rw [hfault]
      exact ⟨And.left, fun h => ⟨h, rfl⟩⟩

open BinaryOp in
/-- A quotient is truncated and a remainder negative; the least integer divided by -1 is one more than the greatest. -/
theorem apply_integers_truncated :
    divide ∈ arithmeticOps ∧ remainder ∈ arithmeticOps ∧
      (divide.apply (.integer (-7)) (.integer 2)).mapError OperatorError.cause = .ok (.integer (-3)) ∧
      (remainder.apply (.integer (-7)) (.integer 2)).mapError OperatorError.cause = .ok (.integer (-1)) ∧
      (divide.apply (.integer Int64.minValue) (.integer (-1))).mapError OperatorError.cause =
        .error (.invalidArgument "integer overflow in -9223372036854775808 / -1") := by
  have hdivision : Division (-7) 2 (-3) (-1) := ⟨rfl, by decide, by decide, by decide⟩
  have hleast : Division Int64.minValue.toInt (-1 : Int64).toInt (2 ^ 63) 0 := ⟨rfl, by decide, by decide, by decide⟩
  have hfits : ¬FitsInt64 (2 ^ 63) := by
    rintro ⟨i, hi⟩
    exact absurd i.toInt_lt (by omega)
  refine ⟨by decide, by decide, ?_, ?_, ?_⟩
  · exact ((apply_integers.1 divide (by decide) (-7) 2).2.1 _).2 ⟨-3, ⟨_, hdivision⟩, by decide, rfl⟩
  · exact ((apply_integers.1 remainder (by decide) (-7) 2).2.1 _).2 ⟨-1, ⟨_, hdivision⟩, by decide, rfl⟩
  · exact (apply_integers.1 divide (by decide) Int64.minValue (-1)).2.2.2.2 (.inl ⟨_, ⟨_, hleast⟩, hfits⟩)

open BinaryOp in
/-- Nothing is left of the least integer divided by -1, and yet the remainder is an overflow. -/
theorem remainder_least_overflows :
    remainder.IsExact Int64.minValue.toInt (-1 : Int64).toInt 0 ∧ FitsInt64 0 ∧
      (remainder.apply (.integer Int64.minValue) (.integer (-1))).mapError OperatorError.cause =
        .error (.invalidArgument "integer overflow in -9223372036854775808 % -1") :=
  ⟨⟨2 ^ 63, rfl, by decide, by decide, by decide⟩, ⟨0, rfl⟩, rfl⟩

end Reshape
