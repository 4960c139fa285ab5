/-
Writing floats.

A `Layout` fixes what the shortest digits leave open: which numbers are written positionally, what an
exponent looks like, whether a whole number keeps a fraction, and which way ties go. Three layouts occur:

* `Layout.literal` — program text and values shown to a reader: `2.5`, `1e16`, `1.5e-7`;
* `Layout.plain` — text made from a float by a program: never an exponent, `3` for `3.0`;
* `Layout.json` — JSON documents: `1e+16`, `0.00001`.
-/
import Reshape.Number.Shortest

namespace Reshape

structure Layout where
  /-- Whether a number whose first digit stands for `10^e` is written without an exponent. -/
  positional : Int → Bool
  /-- A whole number written positionally ends in `.0`. -/
  keepsFraction : Bool
  /-- A positive exponent has a sign. -/
  plusSign : Bool
  tie : Tie

namespace Layout

def literal : Layout where
  positional e := -4 ≤ e && e < 16
  keepsFraction := true
  plusSign := false
  tie := .away

def plain : Layout where
  positional _ := true
  keepsFraction := false
  plusSign := false
  tie := .away

def json : Layout where
  positional e := -5 ≤ e && e < 16
  keepsFraction := true
  plusSign := true
  tie := .even

private def zeros (n : Nat) : List Char := List.replicate n '0'

/-- The digits with the point in place. -/
def writePositional (layout : Layout) (d : Decimal) : List Char :=
  let n : Int := d.digits.length
  if d.point ≤ 0 then '0' :: '.' :: zeros (-d.point).toNat ++ d.digits
  else if n ≤ d.point then
    d.digits ++ zeros (d.point - n).toNat ++ (if layout.keepsFraction then ['.', '0'] else [])
  else d.digits.take d.point.toNat ++ '.' :: d.digits.drop d.point.toNat

/-- One digit, the others after a point, and the exponent. -/
def writeExponent (layout : Layout) (d : Decimal) : List Char :=
  let e := d.point - 1
  let sign := if e < 0 then ['-'] else if layout.plusSign then ['+'] else []
  let mantissa :=
    match d.digits with
    | c :: rest@(_ :: _) => c :: '.' :: rest
    | short => short
  mantissa ++ 'e' :: sign ++ Nat.toDigits 10 e.natAbs

/-- The text of a positive decimal. -/
def writeDecimal (layout : Layout) (d : Decimal) : List Char :=
  if layout.positional (d.point - 1) then layout.writePositional d else layout.writeExponent d

/-- The text of a float. The sign of zero is kept. -/
def write (layout : Layout) (f : Float) : String :=
  match Binary.ofFloat f with
  | .nan => "NaN"
  | .infinite negative => if negative then "-inf" else "inf"
  | .finite negative m e =>
    let body :=
      if m = 0 then (if layout.keepsFraction then ['0', '.', '0'] else ['0'])
      else layout.writeDecimal (Decimal.shortest layout.tie m e)
    String.ofList (if negative then '-' :: body else body)

end Layout

end Reshape
