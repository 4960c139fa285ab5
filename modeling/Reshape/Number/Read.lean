/-
Reading floats.

`Float.ofDecimal` is the float nearest to a decimal of any size. `Float.read?` accepts an optional sign,
digits with a point among or around them, and an exponent; or a name of infinity or of the number that is
none, in any case.
-/
namespace Reshape

/-- The value of a decimal numeral. -/
def digitsValue (cs : List Char) : Nat :=
  cs.foldl (fun n c => 10 * n + (c.toNat - 48)) 0

/-- The float nearest to `m · 10^e`. Beyond the range of floats the power is not computed. -/
def Float.ofDecimal (m : Nat) (e : Int) : Float :=
  let size : Int := e + (Nat.toDigits 10 m).length
  if m = 0 || size < -400 then 0.0
  else if 400 < size then 1.0 / 0.0
  else Float.ofScientific m (e < 0) e.natAbs

/-- A run of digits and what follows it. -/
def spanDigits (cs : List Char) : List Char × List Char :=
  (cs.takeWhile Char.isDigit, cs.dropWhile Char.isDigit)

/-- The exponent that is all of `cs`: nothing, or a mark, a sign if any, and digits. -/
def readExponent? : List Char → Option Int
  | [] => some 0
  | mark :: rest =>
    if mark = 'e' || mark = 'E' then
      let (negative, digits) :=
        match rest with
        | '-' :: ds => (true, ds)
        | '+' :: ds => (false, ds)
        | ds => (false, ds)
      if digits.isEmpty || !digits.all Char.isDigit then none
      else some (if negative then -digitsValue digits else digitsValue digits)
    else none

/-- An unsigned float that is all of `cs`. -/
def readUnsigned? (cs : List Char) : Option Float :=
  let (whole, rest) := spanDigits cs
  let (fraction, rest) :=
    match rest with
    | '.' :: more => spanDigits more
    | _ => ([], rest)
  if whole.isEmpty && fraction.isEmpty then
    match String.ofList (cs.map Char.toLower) with
    | "inf" | "infinity" => some (1.0 / 0.0)
    | "nan" => some (0.0 / 0.0)
    | _ => none
  else
    (readExponent? rest).map fun e =>
      Float.ofDecimal (digitsValue (whole ++ fraction)) (e - fraction.length)

/-- The float that is all of `cs`. -/
def Float.read? : List Char → Option Float
  | '-' :: cs => (readUnsigned? cs).map (-·)
  | '+' :: cs => readUnsigned? cs
  | cs => readUnsigned? cs

end Reshape
