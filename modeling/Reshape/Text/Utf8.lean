/-
Text as bytes.

* `utf8Length` is the length of text in bytes, the unit of all source positions;
* `encode` and `decode?` go between text and bytes, the second only for bytes that are text;
* `decodeLossy` reads any bytes: every longest piece that starts like a character and cannot go on becomes
  one replacement character.
-/
namespace Reshape.Text

/-- The length of text in bytes. -/
def utf8Length : List Char → Nat
  | [] => 0
  | c :: rest => c.utf8Size + utf8Length rest

@[simp] theorem utf8Length_nil : utf8Length [] = 0 := rfl

@[simp] theorem utf8Length_cons (c : Char) (cs : List Char) :
    utf8Length (c :: cs) = c.utf8Size + utf8Length cs := rfl

@[simp] theorem utf8Length_append (xs ys : List Char) :
    utf8Length (xs ++ ys) = utf8Length xs + utf8Length ys := by
  induction xs with
  | nil => simp
  | cons c xs ih => simp [ih, Nat.add_assoc]

/-- The bytes of a string. -/
def encode (s : String) : List UInt8 :=
  s.toUTF8.data.toList

/-- The string that the bytes spell, if they spell one. -/
def decode? (bytes : List UInt8) : Option String :=
  String.fromUTF8? ⟨bytes.toArray⟩

/-- The character put in place of bytes that are no text. -/
def replacement : Char := '\uFFFD'

/-- A byte that continues a character. -/
def isTail (b : UInt8) : Bool :=
  0x80 ≤ b && b ≤ 0xBF

/-- What the first byte of a character of several bytes asks for: the number of tails, the least and
greatest first tail, and the bits it contributes. -/
def leadOf (b : UInt8) : Option (Nat × UInt8 × UInt8 × Nat) :=
  if 0xC2 ≤ b && b ≤ 0xDF then some (1, 0x80, 0xBF, b.toNat - 0xC0)
  else if b == 0xE0 then some (2, 0xA0, 0xBF, 0)
  else if b == 0xED then some (2, 0x80, 0x9F, 0xD)
  else if 0xE1 ≤ b && b ≤ 0xEF then some (2, 0x80, 0xBF, b.toNat - 0xE0)
  else if b == 0xF0 then some (3, 0x90, 0xBF, 0)
  else if 0xF1 ≤ b && b ≤ 0xF3 then some (3, 0x80, 0xBF, b.toNat - 0xF0)
  else if b == 0xF4 then some (3, 0x80, 0x8F, 4)
  else none

/-- Reads up to `n` tails onto `code`: the code point if all are there, and the bytes left. -/
def takeTails : Nat → Nat → List UInt8 → Option Nat × List UInt8
  | 0, code, bytes => (some code, bytes)
  | _ + 1, _, [] => (none, [])
  | n + 1, code, b :: rest =>
    if isTail b then takeTails n (64 * code + (b.toNat - 0x80)) rest else (none, b :: rest)

theorem takeTails_length (n code : Nat) (bytes : List UInt8) :
    (takeTails n code bytes).2.length ≤ bytes.length := by
  induction n generalizing code bytes with
  | zero => simp [takeTails]
  | succ n ih =>
    cases bytes with
    | nil => simp [takeTails]
    | cons b rest =>
      simp only [takeTails]
      split
      · exact Nat.le_trans (ih _ _) (by simp)
      · simp

/-- The character after a first byte, or its replacement, and the bytes left. -/
def decodeTail (b : UInt8) (rest : List UInt8) : Char × List UInt8 :=
  match leadOf b, rest with
  | some (n + 1, least, greatest, bits), t :: more =>
    if least ≤ t && t ≤ greatest then
      let (code, left) := takeTails n (64 * bits + (t.toNat - 0x80)) more
      ((code.map Char.ofNat).getD replacement, left)
    else (replacement, rest)
  | _, _ => (replacement, rest)

theorem decodeTail_length (b : UInt8) (rest : List UInt8) :
    (decodeTail b rest).2.length ≤ rest.length := by
  unfold decodeTail
  split
  · split
    · exact Nat.le_trans (takeTails_length _ _ _) (by simp)
    · simp
  · simp

/-- Bytes read as text, what is no text replaced. -/
def decodeLossy : List UInt8 → List Char
  | [] => []
  | b :: rest =>
    if b < 0x80 then Char.ofNat b.toNat :: decodeLossy rest
    else (decodeTail b rest).1 :: decodeLossy (decodeTail b rest).2
termination_by bytes => bytes.length
decreasing_by
  · simp
  · have := decodeTail_length b rest
    simp; omega

end Reshape.Text
