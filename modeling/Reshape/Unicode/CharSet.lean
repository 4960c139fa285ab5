/-
Sets of characters.

A `CharSet` is a list of ranges of code points. The operations of set algebra keep the ranges sorted,
apart from each other and free of surrogates, whatever ranges they are given:

* `ofRanges`, `union`, `inter`, `complement` and `difference` build sets;
* `contains` is membership;
* `ofTable` reads a set from its tabular notation.
-/
namespace Reshape

structure CharSet where
  ranges : List (Nat × Nat)
deriving DecidableEq, Repr, Inhabited

namespace CharSet

def empty : CharSet := ⟨[]⟩

/-- The code point is in one of the ranges. -/
def containsCode (s : CharSet) (n : Nat) : Bool :=
  s.ranges.any fun (lo, hi) => lo ≤ n && n ≤ hi

def contains (s : CharSet) (c : Char) : Bool :=
  s.containsCode c.toNat

def isEmpty (s : CharSet) : Bool :=
  s.ranges.isEmpty

/-! ### Canonical form -/

/-- Joins ranges that overlap or touch, in a list sorted by lower ends. -/
def merge : List (Nat × Nat) → List (Nat × Nat)
  | [] => []
  | (lo, hi) :: rest =>
    match merge rest with
    | (lo', hi') :: rest' =>
      if lo' ≤ hi + 1 then (lo, max hi hi') :: rest' else (lo, hi) :: (lo', hi') :: rest'
    | [] => [(lo, hi)]

/-- The part of a range below the surrogates and the part above them. -/
def scalarParts : Nat × Nat → List (Nat × Nat)
  | (lo, hi) =>
    [(lo, min hi 0xD7FF), (max lo 0xE000, min hi 0x10FFFF)].filter fun (a, b) => a ≤ b

def ofRanges (rs : List (Nat × Nat)) : CharSet :=
  ⟨merge ((rs.flatMap scalarParts).mergeSort fun a b => a.1 ≤ b.1)⟩

def singleton (c : Char) : CharSet :=
  ⟨[(c.toNat, c.toNat)]⟩

/-- The characters from `a` to `b`, both included. -/
def range (a b : Char) : CharSet :=
  ofRanges [(a.toNat, b.toNat)]

/-! ### Set algebra -/

def union (s t : CharSet) : CharSet :=
  ofRanges (s.ranges ++ t.ranges)

/-- The gaps of a sorted list of ranges, from `start` on. -/
def gaps : Nat → List (Nat × Nat) → List (Nat × Nat)
  | start, [] => [(start, 0x10FFFF)]
  | start, (lo, hi) :: rest =>
    if start < lo then (start, lo - 1) :: gaps (hi + 1) rest else gaps (hi + 1) rest

def complement (s : CharSet) : CharSet :=
  ofRanges (gaps 0 (ofRanges s.ranges).ranges)

def inter (s t : CharSet) : CharSet :=
  ofRanges <| s.ranges.flatMap fun (a, b) =>
    t.ranges.filterMap fun (c, d) =>
      if max a c ≤ min b d then some (max a c, min b d) else none

def difference (s t : CharSet) : CharSet :=
  s.inter t.complement

def symmetricDifference (s t : CharSet) : CharSet :=
  (s.difference t).union (t.difference s)

instance : Union CharSet := ⟨union⟩
instance : Inter CharSet := ⟨inter⟩

/-! ### Tables -/

/-- The value of a hexadecimal numeral. -/
def hexValue (cs : List Char) : Nat :=
  cs.foldl (fun n c => 16 * n + (if c.isDigit then c.toNat - 48 else c.toNat - 55)) 0

/-- The code points of an entry `LO`, `LO-HI` or `LO-HI/2`; the last steps by two. -/
def entryRanges (entry : List Char) : List (Nat × Nat) :=
  let isStep := entry.contains '/'
  let body := entry.takeWhile (· != '/')
  let lo := hexValue (body.takeWhile (· != '-'))
  match body.dropWhile (· != '-') with
  | [] => [(lo, lo)]
  | _ :: upper =>
    let hi := hexValue upper
    if isStep then (List.range ((hi - lo) / 2 + 1)).map fun i => (lo + 2 * i, lo + 2 * i)
    else [(lo, hi)]

/-- The entries of a table, which blanks and line breaks separate. -/
def tableEntries (table : String) : List (List Char) :=
  (table.toList.splitBy fun a b => (a == ' ' || a == '\n') == (b == ' ' || b == '\n')).filter
    fun word => word.all fun c => c != ' ' && c != '\n'

/-- Reads a table of sorted entries. -/
def ofTable (table : String) : CharSet :=
  ⟨(tableEntries table).flatMap entryRanges⟩

end CharSet

end Reshape
