/-
Reading JSON documents from bytes.

The reader names the first fault of a document and its position: the line and the byte in it at which the
reader noticed. Arrays and objects nest at most 127 deep. An integer that fits no 64 bits becomes a float,
and so does `-0`; a float is its digits, as far as they fit 64 bits, scaled by a power of ten.
-/
import Reshape.Json.Basic
import Reshape.Text.Quoted
import Reshape.Text.Utf8

namespace Reshape.Json

/-- What can be wrong with a document. -/
inductive Problem where
  | endOfList
  | endOfObject
  | endOfString
  | endOfValue
  | expectedColon
  | expectedListEnd
  | expectedObjectEnd
  | expectedIdent
  | expectedValue
  | invalidEscape
  | invalidNumber
  | numberOutOfRange
  | invalidUnicode
  | controlCharacter
  | keyNotString
  | loneSurrogate
  | trailingComma
  | trailingCharacters
  | unpairedSurrogate
  | tooDeep
deriving DecidableEq, Repr

def Problem.message : Problem → String
  | endOfList => "EOF while parsing a list"
  | endOfObject => "EOF while parsing an object"
  | endOfString => "EOF while parsing a string"
  | endOfValue => "EOF while parsing a value"
  | expectedColon => "expected `:`"
  | expectedListEnd => "expected `,` or `]`"
  | expectedObjectEnd => "expected `,` or `\x7d`"
  | expectedIdent => "expected ident"
  | expectedValue => "expected value"
  | invalidEscape => "invalid escape"
  | invalidNumber => "invalid number"
  | numberOutOfRange => "number out of range"
  | invalidUnicode => "invalid unicode code point"
  | controlCharacter => "control character (\\u0000-\\u001F) found while parsing a string"
  | keyNotString => "key must be a string"
  | loneSurrogate => "lone leading surrogate in hex escape"
  | trailingComma => "trailing comma"
  | trailingCharacters => "trailing characters"
  | unpairedSurrogate => "unexpected end of hex escape"
  | tooDeep => "recursion limit exceeded"

/-- A problem and the number of bytes before the place where it was noticed. -/
structure Failure where
  problem : Problem
  offset : Nat
deriving DecidableEq, Repr

/-- The bytes still to read and the number of those already read. -/
structure Cursor where
  rest : List UInt8
  offset : Nat

namespace Cursor

/-- Fails just behind the bytes that were read. -/
def fail {α : Type} (c : Cursor) (p : Problem) : Except Failure α :=
  .error ⟨p, c.offset⟩

/-- Fails behind the next byte, if there is one. -/
def failNext {α : Type} (c : Cursor) (p : Problem) : Except Failure α :=
  .error ⟨p, if c.rest.isEmpty then c.offset else c.offset + 1⟩

/-- The next byte, as a character of its own. -/
def peek? (c : Cursor) : Option Char :=
  c.rest.head?.map Char.ofUInt8

def skip (c : Cursor) (n : Nat) : Cursor :=
  ⟨c.rest.drop n, c.offset + min n c.rest.length⟩

def next (c : Cursor) : Cursor :=
  c.skip 1

def isBlank (b : UInt8) : Bool :=
  b == 0x20 || b == 0x0A || b == 0x09 || b == 0x0D

def skipBlank (c : Cursor) : Cursor :=
  c.skip (c.rest.takeWhile isBlank).length

/-- The run of digits that comes next. -/
def digits (c : Cursor) : List Nat :=
  (c.rest.takeWhile fun b => 0x30 ≤ b && b ≤ 0x39).map fun b => b.toNat - 0x30

end Cursor

/-! ### Numbers -/

/-- Appends digits to a significand while it fits 64 bits. -/
def appendDigits : Nat → List Nat → Nat × List Nat
  | n, [] => (n, [])
  | n, d :: rest => if 10 * n + d < 0x10000000000000000 then appendDigits (10 * n + d) rest else (n, d :: rest)

/-- `significand · 10^exponent`, rounded at each step of the scaling. Overflow has no value. -/
def scale (fuel : Nat) (f : Float) (exponent : Int) : Option Float :=
  match fuel with
  | 0 => some f
  | fuel + 1 =>
    if exponent.natAbs ≤ 308 then
      let power := Float.ofScientific 1 false exponent.natAbs
      if 0 ≤ exponent then
        let scaled := f * power
        if scaled.isInf then none else some scaled
      else some (f / power)
    else if f == 0.0 then some f
    else if 0 ≤ exponent then none
    else scale fuel (f / Float.ofScientific 1 false 308) (exponent + 308)

/-- The float of a significand and an exponent. Four steps reach zero from any significand. -/
def readFloat (c : Cursor) (negative : Bool) (significand : Nat) (exponent : Int) : Except Failure (JsonNumber × Cursor) :=
  match scale 4 (UInt64.ofNat significand).toFloat exponent with
  | some f => .ok (.float (if negative then -f else f), c)
  | none => c.fail .numberOutOfRange

/-- The exponent after its mark. One that does not fit 31 bits stands for zero or for overflow. -/
def readExponent (c : Cursor) (negative : Bool) (significand : Nat) (start : Int) : Except Failure (JsonNumber × Cursor) :=
  let c := c.next
  let (minus, c) :=
    match c.peek? with
    | some '+' => (false, c.next)
    | some '-' => (true, c.next)
    | _ => (false, c)
  match c.digits with
  | [] => if c.rest.isEmpty then c.fail .endOfValue else c.next.fail .invalidNumber
  | ds =>
    -- the digits up to the one that no longer fits
    let fitting := ((List.range ds.length).find? fun k =>
      0x80000000 ≤ (ds.take (k + 1)).foldl (fun n d => 10 * n + d) 0).getD ds.length
    if fitting < ds.length then
      if significand ≠ 0 && !minus then (c.skip (fitting + 1)).fail .numberOutOfRange
      else .ok (.float (if negative then -0.0 else 0.0), c.skip ds.length)
    else
      let e : Int := (ds.foldl (fun n d => 10 * n + d) 0 : Nat)
      readFloat (c.skip ds.length) negative significand (if minus then start - e else start + e)

/-- An exponent if there is a mark of one, else the end of the number. -/
def readScaled (c : Cursor) (negative : Bool) (significand : Nat) (exponent : Int) : Except Failure (JsonNumber × Cursor) :=
  match c.peek? with
  | some 'e' | some 'E' => readExponent c negative significand exponent
  | _ => readFloat c negative significand exponent

/-- The fraction after its point. Digits beyond 64 bits are dropped. -/
def readFraction (c : Cursor) (negative : Bool) (significand : Nat) (exponent : Int) : Except Failure (JsonNumber × Cursor) :=
  let c := c.next
  let ds := c.digits
  let (n, left) := appendDigits significand ds
  if ds.isEmpty then
    c.failNext (if c.rest.isEmpty then .endOfValue else .invalidNumber)
  else
    readScaled (c.skip ds.length) negative n (exponent - (ds.length - left.length : Nat))

/-- A number after its sign. -/
def readNumber (c : Cursor) (negative : Bool) : Except Failure (JsonNumber × Cursor) :=
  match c.digits with
  | [] => if c.rest.isEmpty then c.fail .endOfValue else c.next.fail .invalidNumber
  | 0 :: _ :: _ => c.next.failNext .invalidNumber
  | ds =>
    let (n, left) := appendDigits 0 ds
    let c := c.skip ds.length
    match c.peek? with
    | some '.' => readFraction c negative n left.length
    | some 'e' | some 'E' => readExponent c negative n left.length
    | _ =>
      if !left.isEmpty then readFloat c negative n left.length
      else if !negative then .ok (.natural (UInt64.ofNat n), c)
      else if n = 0 || int64Bound < n then .ok (.float (-(UInt64.ofNat n).toFloat), c)
      else .ok (.negative (Int64.ofInt (-n)), c)

/-! ### Strings -/

def hexDigit? (b : UInt8) : Option Nat :=
  if 0x30 ≤ b && b ≤ 0x39 then some (b.toNat - 0x30)
  else if 0x61 ≤ b && b ≤ 0x66 then some (b.toNat - 0x57)
  else if 0x41 ≤ b && b ≤ 0x46 then some (b.toNat - 0x37)
  else none

/-- The value of four hexadecimal digits. -/
def readHex (c : Cursor) : Except Failure (Nat × Cursor) :=
  if c.rest.length < 4 then (c.skip 4).fail .endOfString
  else
    match (c.rest.take 4).mapM hexDigit? with
    | some ds => .ok (ds.foldl (fun n d => 16 * n + d) 0, c.skip 4)
    | none => (c.skip 4).fail .invalidEscape

/-- Reads past a byte that has to come next. -/
def readByte (c : Cursor) (b : UInt8) : Except Failure Cursor :=
  match c.rest with
  | [] => c.fail .endOfString
  | b' :: _ => if b' = b then .ok c.next else c.next.fail .unpairedSurrogate

/-- The character of a `\u` escape; one outside the basic plane is a pair of surrogates. -/
def readUnicodeEscape (c : Cursor) : Except Failure (Char × Cursor) := do
  let (n, c) ← readHex c
  if 0xDC00 ≤ n && n ≤ 0xDFFF then c.fail .loneSurrogate
  else if n < 0xD800 || 0xDBFF < n then return (Char.ofNat n, c)
  else
    let c ← readByte c 0x5C
    let c ← readByte c 0x75
    let (m, c) ← readHex c
    if m < 0xDC00 || 0xDFFF < m then c.fail .loneSurrogate
    else return (Char.ofNat ((n - 0xD800) * 1024 + (m - 0xDC00) + 0x10000), c)

/-- The bytes of the character of an escape, after the backslash. -/
def readEscape (c : Cursor) : Except Failure (List UInt8 × Cursor) :=
  match c.peek? with
  | none => c.fail .endOfString
  | some e =>
    let c := c.next
    match e with
    | '"' => .ok ([0x22], c)
    | '\\' => .ok ([0x5C], c)
    | '/' => .ok ([0x2F], c)
    | 'b' => .ok ([0x08], c)
    | 'f' => .ok ([0x0C], c)
    | 'n' => .ok ([0x0A], c)
    | 'r' => .ok ([0x0D], c)
    | 't' => .ok ([0x09], c)
    | 'u' => (readUnicodeEscape c).map fun (ch, c) => (String.utf8EncodeChar ch, c)
    | _ => c.fail .invalidEscape

/-- The bytes of a string up to its closing quote. Each step reads a byte at least, so as much fuel as there
are bytes is enough. -/
def readStringBytes : Nat → Cursor → Except Failure (List UInt8 × Cursor)
  | 0, c => c.fail .endOfString
  | fuel + 1, c =>
    match c.rest with
    | [] => c.fail .endOfString
    | b :: _ =>
      let c := c.next
      if b = 0x22 then .ok ([], c)
      else if b = 0x5C then do
        let (bytes, c) ← readEscape c
        let (more, c) ← readStringBytes fuel c
        return (bytes ++ more, c)
      else if b < 0x20 then c.fail .controlCharacter
      else do
        let (more, c) ← readStringBytes fuel c
        return (b :: more, c)

/-- A string after its opening quote. -/
def readString (c : Cursor) : Except Failure (String × Cursor) := do
  let (bytes, c) ← readStringBytes (c.rest.length + 1) c
  match Text.decode? bytes with
  | some s => return (s, c)
  | none => c.fail .invalidUnicode

/-! ### Values -/

/-- The rest of a word. -/
def readWord (value : Json) : List UInt8 → Cursor → Except Failure (Json × Cursor)
  | [], c => .ok (value, c)
  | w :: ws, c =>
    match c.rest with
    | [] => c.fail .endOfValue
    | b :: _ => if b = w then readWord value ws c.next else c.next.fail .expectedIdent

mutual

/-- A value, in an environment that may nest `depth` more levels. -/
def readValue : Nat → Nat → Cursor → Except Failure (Json × Cursor)
  | 0, _, c => c.fail .endOfValue
  | fuel + 1, depth, c =>
    let c := c.skipBlank
    match c.peek? with
    | none => c.failNext .endOfValue
    | some 'n' => readWord .null "ull".toUTF8.data.toList c.next
    | some 't' => readWord (.boolean true) "rue".toUTF8.data.toList c.next
    | some 'f' => readWord (.boolean false) "alse".toUTF8.data.toList c.next
    | some '-' => (readNumber c.next true).map fun (n, c) => (.number n, c)
    | some '"' => (readString c.next).map fun (s, c) => (.string s, c)
    | some '[' =>
      match depth with
      | 0 => c.failNext .tooDeep
      | depth + 1 => (readItems fuel depth true c.next).map fun (items, c) => (.array items, c)
    | some '\x7b' =>
      match depth with
      | 0 => c.failNext .tooDeep
      | depth + 1 =>
        (readMembers fuel depth true c.next).map fun (ms, c) => (.object (Fields.ofList ms), c)
    | some ch =>
      if ch.isDigit then (readNumber c false).map fun (n, c) => (.number n, c)
      else c.failNext .expectedValue

/-- The items up to the closing bracket; `first` before any item was read. -/
def readItems : Nat → Nat → Bool → Cursor → Except Failure (List Json × Cursor)
  | 0, _, _, c => c.fail .endOfList
  | fuel + 1, depth, first, c =>
    let c := c.skipBlank
    let item (c : Cursor) : Except Failure (List Json × Cursor) := do
      let (j, c) ← readValue fuel depth c
      let (rest, c) ← readItems fuel depth false c
      return (j :: rest, c)
    match c.peek? with
    | none => c.failNext .endOfList
    | some ']' => .ok ([], c.next)
    | some ch =>
      if first then item c
      else if ch = ',' then
        let c := c.next.skipBlank
        match c.peek? with
        | none => c.failNext .endOfValue
        | some ']' => c.failNext .trailingComma
        | some _ => item c
      else c.failNext .expectedListEnd

/-- The members up to the closing brace, in the order written. -/
def readMembers : Nat → Nat → Bool → Cursor → Except Failure (List (String × Json) × Cursor)
  | 0, _, _, c => c.fail .endOfObject
  | fuel + 1, depth, first, c =>
    let c := c.skipBlank
    let member (c : Cursor) : Except Failure ((List (String × Json)) × Cursor) := do
      let (k, c) ← readString c.next
      let c := c.skipBlank
      match c.peek? with
      | none => c.failNext .endOfObject
      | some ':' =>
        let (j, c) ← readValue fuel depth c.next
        let (rest, c) ← readMembers fuel depth false c
        return ((k, j) :: rest, c)
      | some _ => c.failNext .expectedColon
    match c.peek? with
    | none => c.failNext .endOfObject
    | some '\x7d' => .ok ([], c.next)
    | some ch =>
      if first then (if ch = '"' then member c else c.failNext .keyNotString)
      else if ch = ',' then
        let c := c.next.skipBlank
        match c.peek? with
        | none => c.failNext .endOfValue
        | some '"' => member c
        | some '\x7d' => c.failNext .trailingComma
        | some _ => c.failNext .keyNotString
      else c.failNext .expectedObjectEnd

end

/-- Reads a document that is all of `bytes`. -/
def readDocument (bytes : List UInt8) : Except Failure Json := do
  let (j, c) ← readValue (2 * bytes.length + 2) 127 ⟨bytes, 0⟩
  let c := c.skipBlank
  if c.rest.isEmpty then return j else c.failNext .trailingCharacters

/-- Line and byte in it of an offset. -/
def position (bytes : List UInt8) (offset : Nat) : Nat × Nat :=
  let before := bytes.take offset
  (1 + before.count 0x0A, (before.reverse.takeWhile (· != 0x0A)).length)

/-- The text that names a failure and its place. -/
def Failure.message (f : Failure) (bytes : List UInt8) : String :=
  let (line, column) := position bytes f.offset
  s!"{f.problem.message} at line {line} column {column}"

/-- A failure with its parts. -/
def Failure.details (f : Failure) (bytes : List UInt8) : String :=
  let (line, column) := position bytes f.offset
  s!"Error({quoted f.problem.message}, line: {line}, column: {column})"

/-- The document of a text, or the message that says why there is none. -/
def read (bytes : List UInt8) : Except String Json :=
  (readDocument bytes).mapError fun failure => failure.message bytes

end Reshape.Json
