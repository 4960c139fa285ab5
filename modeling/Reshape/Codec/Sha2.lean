/-
Digests of the SHA-2 family.

One definition serves words of 32 and of 64 bits. The constants are what the standard says they are: the
first bits of the fractions of square and cube roots of primes, taken by exact integer roots.
-/
namespace Reshape.Sha2

/-! ### Constants -/

/-- The largest `r` below `2^bits` with `r^k ≤ n`, found bit by bit from `acc` on. -/
def rootFrom (k n : Nat) : Nat → Nat → Nat
  | 0, acc => acc
  | bits + 1, acc =>
    let next := acc + Nat.pow 2 bits
    if Nat.pow next k ≤ n then rootFrom k n bits next else rootFrom k n bits acc

/-- The first `w` bits of the fraction of the `k`-th root of `p`. -/
def rootFraction (w k p : Nat) : BitVec w :=
  BitVec.ofNat w (rootFrom k (p * Nat.pow 2 (k * w)) (w + 16) 0)

def isPrime (n : Nat) : Bool :=
  2 ≤ n && (List.range n).all fun d => d < 2 || n % d != 0

/-- The primes below 410, eighty of them. -/
def primes : List Nat :=
  (List.range 410).filter isPrime

/-! ### Compression -/

/-- A block as sixteen words, and the state as eight. -/
abbrev Words (w : Nat) := List (BitVec w)

/-- What the two word lengths differ in: the amounts of the rotations, and of the shift that comes third in
the small functions, and the number of rounds. -/
structure Family (w : Nat) where
  large0 : Nat × Nat × Nat
  large1 : Nat × Nat × Nat
  small0 : Nat × Nat × Nat
  small1 : Nat × Nat × Nat
  constants : Words w

def rotations {w : Nat} (r : Nat × Nat × Nat) (x : BitVec w) : BitVec w :=
  x.rotateRight r.1 ^^^ x.rotateRight r.2.1 ^^^ x.rotateRight r.2.2

def rotationsAndShift {w : Nat} (r : Nat × Nat × Nat) (x : BitVec w) : BitVec w :=
  x.rotateRight r.1 ^^^ x.rotateRight r.2.1 ^^^ x >>> r.2.2

/-- One round on the eight registers, with the constant and the word of the round added up. -/
def round {w : Nat} (f : Family w) (state : Words w) (input : BitVec w) : Words w :=
  match state with
  | [a, b, c, d, e, g, h, i] =>
    let t1 := i + rotations f.large1 e + ((e &&& g) ^^^ (~~~e &&& h)) + input
    let t2 := rotations f.large0 a + ((a &&& b) ^^^ (a &&& c) ^^^ (b &&& c))
    [t1 + t2, a, b, c, d + t1, e, g, h]
  | other => other

/-- The next word of the schedule, from the sixteen before it. -/
def nextWord {w : Nat} (f : Family w) (window : Words w) : BitVec w :=
  rotationsAndShift f.small1 (window.getD 14 0) + window.getD 9 0
    + rotationsAndShift f.small0 (window.getD 1 0) + window.getD 0 0

/-- The rounds of the given constants. -/
def rounds {w : Nat} (f : Family w) : Words w → Words w → Words w → Words w
  | state, _, [] => state
  | state, window, k :: constants =>
    let state := round f state (k + window.getD 0 0)
    rounds f state (window.drop 1 ++ [nextWord f window]) constants

def compress {w : Nat} (f : Family w) (state block : Words w) : Words w :=
  List.zipWith (· + ·) state (rounds f state block f.constants)

/-! ### Blocks -/

/-- A number as bytes, the highest first. -/
def bigEndian : Nat → Nat → List UInt8
  | 0, _ => []
  | count + 1, n => UInt8.ofNat (n / Nat.pow 256 count) :: bigEndian count n

/-- A list in pieces of `size`, as many as `count`. -/
def pieces {α : Type} (size : Nat) : Nat → List α → List (List α)
  | 0, _ => []
  | count + 1, xs => xs.take size :: pieces size count (xs.drop size)

/-- The bytes of a message, a bit, zeros, and the length in bits, as whole blocks of `2 · w` bytes. -/
def padded (w : Nat) (data : List UInt8) : List UInt8 :=
  let width := w / 4
  let used := (data.length + 1 + width) % (2 * w)
  let zeros := (2 * w - used) % (2 * w)
  data ++ 0x80 :: List.replicate zeros 0 ++ bigEndian width (8 * data.length)

def wordOf (w : Nat) (bytes : List UInt8) : BitVec w :=
  bytes.foldl (fun x b => (x <<< 8) ||| BitVec.ofNat w b.toNat) 0

def digest {w : Nat} (f : Family w) (start : Words w) (data : List UInt8) : List UInt8 :=
  let bytes := padded w data
  let blocks := pieces (2 * w) (bytes.length / (2 * w)) bytes
  let state := blocks.foldl (fun state block =>
    compress f state ((pieces (w / 8) 16 block).map (wordOf w))) start
  state.flatMap fun x => bigEndian (w / 8) x.toNat

/-! ### The family -/

def family32 : Family 32 where
  large0 := (2, 13, 22)
  large1 := (6, 11, 25)
  small0 := (7, 18, 3)
  small1 := (17, 19, 10)
  constants := (primes.take 64).map (rootFraction 32 3)

def family64 : Family 64 where
  large0 := (28, 34, 39)
  large1 := (14, 18, 41)
  small0 := (1, 8, 7)
  small1 := (19, 61, 6)
  constants := (primes.take 80).map (rootFraction 64 3)

def sha256 (data : List UInt8) : List UInt8 :=
  digest family32 ((primes.take 8).map (rootFraction 32 2)) data

def sha512 (data : List UInt8) : List UInt8 :=
  digest family64 ((primes.take 8).map (rootFraction 64 2)) data

/-- The state that the two truncated digests start from: roots of the next eight primes. -/
def secondStart : Words 64 :=
  ((primes.drop 8).take 8).map (rootFraction 64 2)

def sha384 (data : List UInt8) : List UInt8 :=
  (digest family64 secondStart data).take 48

def sha224 (data : List UInt8) : List UInt8 :=
  (digest family32 (secondStart.map (·.setWidth 32)) data).take 28

/-- Bytes in lower-case hexadecimal. -/
def hexText (bytes : List UInt8) : List Char :=
  bytes.flatMap fun b => [Nat.digitChar (b.toNat / 16), Nat.digitChar (b.toNat % 16)]

end Reshape.Sha2
