/-
Floats as exact binary numbers.

A finite float is a sign, a natural mantissa and a power of two. All text of floats, their conversion to
integers and their remainder are computed on this form, in exact arithmetic on natural numbers:

* `Binary.ofFloat` takes a float apart;
* `Binary.truncate` is the integer part of a finite float, toward zero;
* `Float.remainder` is the remainder with the sign of the dividend, which is always a float.
-/
namespace Reshape

/-- A float taken apart: `finite s m e` is `± m · 2^e`, negative when `s`. -/
inductive Binary where
  | nan
  | infinite (negative : Bool)
  | finite (negative : Bool) (mantissa : Nat) (exponent : Int)
deriving DecidableEq, Repr

namespace Binary

/-- The exponent of the least positive float. -/
def leastExponent : Int := -1074

/-- The bit above the fraction of a float, which is not written. -/
def hiddenBit : Nat := 0x10000000000000

/-- Sign, mantissa and exponent read off the bits of a float. -/
def ofFloat (f : Float) : Binary :=
  let bits := f.toBits.toNat
  let negative := bits / 0x8000000000000000 == 1
  let biased : Nat := bits / hiddenBit % 0x800
  let fraction : Nat := bits % hiddenBit
  if biased = 2047 then
    if fraction = 0 then infinite negative else nan
  else if biased = 0 then finite negative fraction leastExponent
  else finite negative (hiddenBit + fraction) ((biased : Int) - 1075)

/-- The float with the given sign, biased exponent and fraction. -/
private def assemble (negative : Bool) (biased fraction : Nat) : Float :=
  Float.ofBits (UInt64.ofNat ((if negative then 0x8000000000000000 else 0) + biased * hiddenBit + fraction))

/-- The float `± m · 2^e`, for a number that is a float: surplus low bits of `m` are zeros. -/
def exactFloat (negative : Bool) (m : Nat) (e : Int) : Float :=
  if m = 0 then assemble negative 0 0
  else
    let low := max (e + m.log2 - 52) leastExponent
    let scaled := if low ≤ e then m * Nat.pow 2 (e - low).toNat else m / Nat.pow 2 (low - e).toNat
    if scaled < hiddenBit then assemble negative 0 scaled
    else assemble negative (low + 1075).toNat (scaled - hiddenBit)

/-- The integer part of a finite number, toward zero. -/
def truncate : Binary → Option Int
  | finite negative m e =>
    let magnitude := if 0 ≤ e then m * Nat.pow 2 e.toNat else m / Nat.pow 2 (-e).toNat
    some (if negative then -magnitude else magnitude)
  | _ => none

end Binary

/-- The remainder of a division rounded toward zero: it has the sign of the dividend and is exact.
A division by zero or of an infinity has none. -/
def Float.remainder (x y : Float) : Float :=
  match Binary.ofFloat x, Binary.ofFloat y with
  | .finite negative m e, .finite _ n g =>
    if n = 0 then 0.0 / 0.0
    else
      let low := min e g
      let rest := m * Nat.pow 2 (e - low).toNat % (n * Nat.pow 2 (g - low).toNat)
      Binary.exactFloat negative rest low
  | .finite .., .infinite _ => x
  | _, _ => 0.0 / 0.0

end Reshape
