/-
Identifiers that no two calls share.

An identifier is made of the digest of a seed and a number: two hexadecimal digits a byte in groups of 8, 4,
4, 4 and 12, with the marks of a random identifier, the digit `4` and a digit of `8` to `b`.
-/
import Reshape.Codec.Sha2

namespace Reshape.Identifier

/-- Sixteen bytes with the marks of a random identifier set. -/
def marked (bytes : List UInt8) : List UInt8 :=
  bytes.mapIdx fun i b =>
    if i = 6 then b &&& 0x0F ||| 0x40 else if i = 8 then b &&& 0x3F ||| 0x80 else b

/-- Hexadecimal digits in groups. -/
def grouped (digits : List Char) : List Char :=
  digits.take 8 ++ '-' :: (digits.drop 8).take 4 ++ '-' :: (digits.drop 12).take 4
    ++ '-' :: (digits.drop 16).take 4 ++ '-' :: digits.drop 20

def text (seed serial : Nat) : String :=
  let bytes := Sha2.sha256 (Sha2.bigEndian 32 seed ++ Sha2.bigEndian 8 serial)
  String.ofList (grouped (Sha2.hexText (marked (bytes.take 16))))

end Reshape.Identifier
