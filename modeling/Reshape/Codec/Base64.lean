/-
Bytes as text of base 64.

Three bytes are four symbols; a shorter rest is filled up with `=`. `encode` writes this form and `decode`
accepts nothing else: a symbol outside the alphabet, a pad where a symbol belongs, a length that no bytes
have, missing pads and bits that `encode` would not have set are each refused.
-/
import Reshape.Text.Utf8

namespace Reshape.Base64

/-- What is wrong with a text, at which byte. -/
inductive Problem where
  | invalidByte (offset : Nat) (byte : UInt8)
  | invalidLength
  | invalidLastSymbol (offset : Nat) (byte : UInt8)
  | invalidPadding
deriving DecidableEq, Repr

def Problem.message : Problem → String
  | invalidByte offset byte => s!"Invalid byte {byte}, offset {offset}."
  | invalidLength => "Encoded text cannot have a 6-bit remainder."
  | invalidLastSymbol offset byte => s!"Invalid last symbol {byte}, offset {offset}."
  | invalidPadding => "Invalid padding"

/-- The symbol of a number below 64. -/
def symbol (n : Nat) : Char :=
  if n < 26 then Char.ofNat (65 + n)
  else if n < 52 then Char.ofNat (71 + n)
  else if n < 62 then Char.ofNat (n - 4)
  else if n = 62 then '+'
  else '/'

/-- The number of a symbol. -/
def number? (b : UInt8) : Option Nat :=
  let n := b.toNat
  if 65 ≤ n ∧ n ≤ 90 then some (n - 65)
  else if 97 ≤ n ∧ n ≤ 122 then some (n - 71)
  else if 48 ≤ n ∧ n ≤ 57 then some (n + 4)
  else if n = 43 then some 62
  else if n = 47 then some 63
  else none

/-- The pad `=`. -/
def pad : UInt8 := 61

/-! ### Writing -/

/-- The symbols for bytes, without pads. -/
def split : List UInt8 → List Nat
  | a :: b :: c :: rest =>
    a.toNat / 4 :: (a.toNat % 4 * 16 + b.toNat / 16) :: (b.toNat % 16 * 4 + c.toNat / 64)
      :: c.toNat % 64 :: split rest
  | [a, b] => [a.toNat / 4, a.toNat % 4 * 16 + b.toNat / 16, b.toNat % 16 * 4]
  | [a] => [a.toNat / 4, a.toNat % 4 * 16]
  | [] => []

/-- The pads that fill up so many symbols. -/
def padCount (symbols : Nat) : Nat :=
  (4 - symbols % 4) % 4

def encode (bytes : List UInt8) : List Char :=
  let numbers := split bytes
  numbers.map symbol ++ List.replicate (padCount numbers.length) '='

/-! ### Reading -/

/-- The bytes of a list of numbers below 64; bits beyond the last whole byte are dropped. -/
def regroup : List Nat → List UInt8
  | a :: b :: c :: d :: rest =>
    UInt8.ofNat (a * 4 + b / 16) :: UInt8.ofNat (b % 16 * 16 + c / 4) :: UInt8.ofNat (c % 4 * 64 + d)
      :: regroup rest
  | [a, b, c] => [UInt8.ofNat (a * 4 + b / 16), UInt8.ofNat (b % 16 * 16 + c / 4)]
  | [a, b] => [UInt8.ofNat (a * 4 + b / 16)]
  | _ => []

/-- The numbers of symbols where no pad may stand. -/
def readSymbols (offset : Nat) : List UInt8 → Except Problem (List Nat)
  | [] => .ok []
  | b :: rest => do
    match number? b with
    | none => throw (.invalidByte offset b)
    | some n => return n :: (← readSymbols (offset + 1) rest)

/-- The numbers of the last symbols and the count of the pads after them. `firstPad` is the offset of the
first pad so far, `i` the place in this group. A pad is the third or fourth of four. -/
def readEnd (start i : Nat) (firstPad : Option Nat) : List UInt8 → Except Problem (List Nat × Nat)
  | [] => .ok ([], 0)
  | b :: rest =>
    if b = pad then
      if i % 4 < 2 then .error (.invalidByte (firstPad.getD (start + i)) b)
      else do
        let (numbers, pads) ← readEnd start (i + 1) (firstPad <|> some (start + i)) rest
        return (numbers, pads + 1)
    else
      match firstPad, number? b with
      | some offset, _ => .error (.invalidByte offset pad)
      | none, none => .error (.invalidByte (start + i) b)
      | none, some n => do
        let (numbers, pads) ← readEnd start (i + 1) none rest
        return (n :: numbers, pads)

/-- Bits of the last number that belong to no byte. -/
def surplus (numbers : List Nat) : Nat :=
  match numbers.length % 4 with
  | 2 => numbers.getLastD 0 % 16
  | 3 => numbers.getLastD 0 % 4
  | _ => 0

/-- The bytes that a text spells. The last eight symbols, or fewer, are where pads may stand. -/
def decode (text : List UInt8) : Except Problem (List UInt8) := do
  if text.length % 4 = 1 then
    match text.getLast? with
    | some b => if b ≠ pad ∧ (number? b).isNone then throw (.invalidByte (text.length - 1) b)
    | none => pure ()
    throw .invalidLength
  let start := (text.length - 1) / 8 * 8
  let early ← readSymbols 0 (text.take start)
  let (late, pads) ← readEnd start 0 none (text.drop start)
  let numbers := early ++ late
  if (numbers.length + pads) % 4 ≠ 0 then throw .invalidPadding
  if surplus numbers ≠ 0 then
    throw (.invalidLastSymbol (numbers.length - 1) (text.getD (numbers.length - 1) 0))
  return regroup numbers

end Reshape.Base64
