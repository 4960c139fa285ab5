/-
The shortest decimal of a float.

`Decimal.shortest` gives the fewest digits whose value reads back as the float, and of those decimals the
one nearest to it. For one, two, … digits the two neighbours of the float on that decimal grid are tested
against the interval of numbers that round to it; the first grid with a hit wins. Two hits at equal
distance are settled by the caller's rule for ties.
-/
import Reshape.Number.Binary

namespace Reshape

/-- A positive decimal `0.d₁d₂… · 10^point`, its first digit not zero. -/
structure Decimal where
  digits : List Char
  point : Int
deriving DecidableEq, Repr

/-- Which of two decimals at equal distance is taken. -/
inductive Tie where
  | away
  | even
deriving DecidableEq, Repr

namespace Decimal

/-- The numbers that round to a float, as quarters of its last place: `low / den` to `high / den` about
`mid / den`, the ends included when `closed`. -/
structure Interval where
  low : Nat
  mid : Nat
  high : Nat
  den : Nat
  closed : Bool

/-- The interval of `m · 2^e`. Below a power of two the floats lie twice as dense. -/
def Interval.of (m : Nat) (e : Int) : Interval :=
  let below := if m = Binary.hiddenBit ∧ Binary.leastExponent < e then 1 else 2
  let scale := if 2 ≤ e then Nat.pow 2 (e - 2).toNat else 1
  { low := (4 * m - below) * scale
    mid := 4 * m * scale
    high := (4 * m + 2) * scale
    den := if 2 ≤ e then 1 else Nat.pow 2 (2 - e).toNat
    closed := m % 2 = 0 }

/-- Whether `num / den'` lies in the interval. -/
def Interval.contains (i : Interval) (num den' : Nat) : Bool :=
  if i.closed then i.low * den' ≤ num * i.den && num * i.den ≤ i.high * den'
  else i.low * den' < num * i.den && num * i.den < i.high * den'

/-- The number of digits before the point: the least `k` with `num / den < 10^k`. The search starts from
an estimate that is too small by at most two. -/
def pointOf (num den : Nat) : Int :=
  let estimate : Int := (((num.log2 : Int) - den.log2 - 1) * 30103).fdiv 100000
  let below (k : Int) : Bool :=
    if 0 ≤ k then num < den * Nat.pow 10 k.toNat else num * Nat.pow 10 (-k).toNat < den
  if below estimate then estimate
  else if below (estimate + 1) then estimate + 1
  else if below (estimate + 2) then estimate + 2
  else estimate + 3

/-- The decimal with integer `d` before the power `10^e`, trailing zeros dropped. -/
def ofNat (d : Nat) (e : Int) : Decimal :=
  let digits := Nat.toDigits 10 d
  { digits := (digits.reverse.dropWhile (· == '0')).reverse
    point := e + digits.length }

/-- The neighbour with `n` digits that reads back as the float, if there is one. -/
def onGrid (i : Interval) (tie : Tie) (k : Int) (n : Nat) : Option Decimal :=
  let e := k - n
  -- one step of the grid is `up / down`
  let up := if 0 ≤ e then Nat.pow 10 e.toNat else 1
  let down := if 0 ≤ e then 1 else Nat.pow 10 (-e).toNat
  let d := i.mid * down / (i.den * up)
  let twice := 2 * i.mid * down
  let half := (2 * d + 1) * i.den * up
  let lower := i.contains (d * up) down
  let upper := i.contains ((d + 1) * up) down
  let nearer : Bool :=
    if twice = half then (match tie with | .away => true | .even => d % 2 == 1)
    else half < twice
  let takeUpper := upper && (!lower || nearer)
  if takeUpper then some (ofNat (d + 1) e)
  else if lower then some (ofNat d e)
  else none

/-- The shortest decimal of `m · 2^e`, for `m` positive. Seventeen digits always suffice. -/
def shortest (tie : Tie) (m : Nat) (e : Int) : Decimal :=
  let i := Interval.of m e
  let k := pointOf i.mid i.den
  ((List.range 17).findSome? fun n => onGrid i tie k (n + 1)).getD (ofNat 0 0)

end Decimal

end Reshape
