/-
Regular expressions and the texts that they match.

A `Regex` matches from a place in a text to another; `Regex.reach` gives all places that it leads to from some
places. A text matches if it leads anywhere at all. Places are numbers of characters before them.
-/
import Reshape.Unicode.Word

namespace Reshape

inductive Regex.WordEdge where
  | boundary | inside | start | stop | startHalf | stopHalf
deriving DecidableEq, Repr

/-- What a place in a text may be asked to be. -/
inductive Regex.Look where
  | textStart
  | textEnd
  /-- With `anyBreak`, a carriage return also ends a line. -/
  | lineStart (anyBreak : Bool)
  | lineEnd (anyBreak : Bool)
  | word (edge : WordEdge) (unicode : Bool)
deriving DecidableEq, Repr

inductive Regex where
  | empty
  | char (set : CharSet)
  | look (l : Regex.Look)
  | seq (a b : Regex)
  | either (a b : Regex)
  | repetition (least : Nat) (most : Option Nat) (inner : Regex)
deriving DecidableEq, Repr

namespace Regex

/-! ### Places -/

/-- The character before a place and the one after it. -/
def around (text : Array Char) (i : Nat) : Option Char × Option Char :=
  (if i = 0 then none else text[i - 1]?, text[i]?)

def isWordChar (unicode : Bool) (c : Char) : Bool :=
  if unicode then Unicode.isWordChar c else c.isAlphanum || c == '_'

def WordEdge.holds (edge : WordEdge) (before after : Bool) : Bool :=
  match edge with
  | boundary => before != after
  | inside => before == after
  | start => !before && after
  | stop => before && !after
  | startHalf => !before
  | stopHalf => !after

def Look.holds : Look → Option Char → Option Char → Bool
  | textStart, before, _ => before.isNone
  | textEnd, _, after => after.isNone
  | lineStart false, before, _ => before.all (· == '\n')
  | lineStart true, before, after =>
    before.all fun c => c == '\n' || (c == '\r' && after != some '\n')
  | lineEnd false, _, after => after.all (· == '\n')
  | lineEnd true, before, after =>
    after.all fun c => c == '\r' || (c == '\n' && before != some '\r')
  | word edge unicode, before, after =>
    edge.holds (before.any (isWordChar unicode)) (after.any (isWordChar unicode))

/-! ### Sets of places -/

/-- Places in order, each once. -/
def places (xs : List Nat) : List Nat :=
  (xs.mergeSort (· ≤ ·)).eraseReps

/-- Takes a step so many times, or until it changes nothing. -/
def iterate (step : List Nat → List Nat) : Nat → List Nat → List Nat
  | 0, ps => ps
  | n + 1, ps => if step ps = ps then ps else iterate step n (step ps)

/-- Takes a step up to so many times and keeps all places on the way. -/
def spread (step : List Nat → List Nat) : Nat → List Nat → List Nat
  | 0, ps => ps
  | n + 1, ps =>
    let wider := places (ps ++ step ps)
    if wider = ps then ps else spread step n wider

/-- The places that a match from one of the given places may end at. A repetition that gets on at every turn
is through with the text after as many turns as it has characters; one that does not need not be repeated
more often. -/
def reach (text : Array Char) : Regex → List Nat → List Nat
  | empty, ps => ps
  | char set, ps => (ps.filter fun i => text[i]?.any set.contains).map (· + 1)
  | look l, ps => ps.filter fun i => l.holds (around text i).1 (around text i).2
  | seq a b, ps => b.reach text (a.reach text ps)
  | either a b, ps => places (a.reach text ps ++ b.reach text ps)
  | repetition least most inner, ps =>
    let enough := text.size + 1
    let more := (most.map (· - least)).getD enough
    spread (inner.reach text) (min more enough) (iterate (inner.reach text) (min least enough) ps)

/-- Does the regular expression match a part of the text? -/
def isMatch (r : Regex) (text : List Char) : Bool :=
  !(r.reach text.toArray (List.range (text.length + 1))).isEmpty

/-! ### Size -/

/-- Matches nothing but the empty text. -/
def isBare : Regex → Bool
  | empty | look _ => true
  | char _ => false
  | seq a b | either a b => a.isBare && b.isBare
  | repetition _ _ inner => inner.isBare

/-- The bytes of a machine for a character of a set. -/
def charSize (set : CharSet) : Nat :=
  match set.ranges with
  | [(lo, hi)] => if lo = hi then 32 * (Char.ofNat lo).utf8Size else if hi < 0x80 then 32 else 96
  | ranges => if ranges.all (·.2 < 0x80) then 32 + 8 * ranges.length else 60 * ranges.length

/-- How many bytes a machine for the regular expression takes, about. -/
def size : Regex → Nat
  | empty | look _ => 32
  | char set => charSize set
  | seq a b => a.size + b.size
  | either a b => 48 + a.size + b.size
  | repetition least most inner =>
    let (least, most) := if inner.isBare then (min least 1, most.map (min · 1)) else (least, most)
    match most with
    | some most => least * inner.size + (most - least) * (inner.size + 48)
    | none => max 1 least * inner.size + 48

end Regex

end Reshape
