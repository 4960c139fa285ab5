/-
Time zones.

A zone is its offset before any change and the list of its changes: instants, sorted, and the offset of the
clock from each on.

* `Zone.offsetAt` is the offset at an instant;
* `Zone.ofInstant` shows an instant on the clock of a zone;
* `Zone.localSpans` is what its clock shows between the changes, and `Zone.search` finds a time there;
* `Zone.ofWallClock?` is the earliest instant at which the clock of a zone shows a given time. A time that
  the clock skips is at no instant.
-/
import Reshape.Time.Fields

namespace Reshape

structure Zone where
  name : String
  /-- The offset before the first change. -/
  first : Int
  /-- The instants at which the offset changes, sorted, each with the offset from then on. -/
  changes : List (Int × Int)
deriving DecidableEq, Repr

namespace Zone

open Time

/-- A zone that never changes its clock. -/
def fixed (name : String) (offset : Int) : Zone :=
  ⟨name, offset, []⟩

/-- The offset after the changes up to an instant. -/
def offsetAfter (current : Int) (second : Int) : List (Int × Int) → Int
  | [] => current
  | (start, offset) :: rest =>
    if start ≤ second then offsetAfter offset second rest else current

def offsetAt (z : Zone) (second : Int) : Int :=
  offsetAfter z.first second z.changes

/-- An instant as the clock of the zone shows it. -/
def ofInstant (z : Zone) (t : Timestamp) : Timestamp :=
  t.withOffset (z.offsetAt t.second)

/-! ### Times of the clock -/

/-- A time between two changes of the clock, as the clock shows it: from `start` on and before `stop`. -/
structure LocalSpan where
  /-- There is none before the first change. -/
  start : Option Int
  /-- There is none behind the last change. -/
  stop : Option Int
  offset : Int
deriving DecidableEq, Repr

namespace LocalSpan

def hasBegun (s : LocalSpan) (shown : Int) : Bool :=
  s.start.all (· ≤ shown)

def isOver (s : LocalSpan) (shown : Int) : Bool :=
  s.stop.any (· ≤ shown)

def contains (s : LocalSpan) (shown : Int) : Bool :=
  s.hasBegun shown && !s.isOver shown

/-- On which side of a time the span is. -/
def compare (s : LocalSpan) (shown : Int) : Ordering :=
  if s.contains shown then .eq else if s.hasBegun shown then .lt else .gt

end LocalSpan

/-- The spans from a change on, or from the beginning, with the changes behind it. -/
def localSpansFrom (start : Option Int) (offset : Int) : List (Int × Int) → List LocalSpan
  | [] => [⟨start.map (· + offset), none, offset⟩]
  | (second, next) :: rest =>
    ⟨start.map (· + offset), some (second + offset), offset⟩ :: localSpansFrom (some second) next rest

/-- What the clock shows between its changes. Where it is put back the spans overlap, and where it is put on there
is a gap between them. -/
def localSpans (z : Zone) : List LocalSpan :=
  localSpansFrom none z.first z.changes

/-- The position of a span that contains a time, from `low` on and before `high`. The span in the middle is looked
at, and tells on which side to go on. -/
def search (spans : List LocalSpan) (shown : Int) (low high : Nat) : Option Nat :=
  if low < high then
    match spans[low + (high - low) / 2]? with
    | none => none
    | some span =>
      match span.compare shown with
      | .eq => some (low + (high - low) / 2)
      | .gt => search spans shown low (low + (high - low) / 2)
      | .lt => search spans shown (low + (high - low) / 2 + 1) high
  else none
termination_by high - low
decreasing_by all_goals omega

/-- What a time of the clock stands for. A time that is shown twice stands for two, the first one first. -/
inductive Mapped (α : Type) where
  | none
  | single (a : α)
  | ambiguous (first second : α)
deriving DecidableEq, Repr

namespace Mapped

variable {α β : Type}

/-- All that a time stands for, if each of it can be made. -/
def filterMap (f : α → Option β) : Mapped α → Mapped β
  | none => none
  | single a => (f a).elim none single
  | ambiguous a b =>
    match f a, f b with
    | some a, some b => ambiguous a b
    | _, _ => none

def earliest : Mapped α → Option α
  | none => .none
  | single a | ambiguous a _ => some a

end Mapped

/-- The offset of the span that was found, which is the first of the last list, and that of the one before or behind
it if that contains the time too. -/
def offsetsFound (shown : Int) (before : List LocalSpan) : List LocalSpan → Mapped Int
  | [] => .none
  | span :: behind =>
    match before.getLast?.filter (·.contains shown), behind.head?.filter (·.contains shown) with
    | some last, _ => .ambiguous last.offset span.offset
    | none, some next => .ambiguous span.offset next.offset
    | none, none => .single span.offset

/-- The offsets at which the clock shows a time. -/
def offsetsShowing (z : Zone) (shown : Int) : Mapped Int :=
  match search z.localSpans shown 0 z.localSpans.length with
  | none => .none
  | some i => offsetsFound shown (z.localSpans.take i) (z.localSpans.drop i)

/-- The instant at which the clock shows a time with an offset, if timestamps reach it. -/
def instant? (clock : WallClock) (offset : Int) : Option Timestamp :=
  let second := clock.second - offset
  if Timestamp.leastSecond ≤ second ∧ second ≤ Timestamp.greatestSecond then
    some ⟨second, clock.nano, offset⟩
  else none

/-- The earliest instant at which the clock shows the given time. -/
def ofWallClock? (z : Zone) (clock : WallClock) : Option Timestamp :=
  ((z.offsetsShowing clock.second).filterMap (instant? clock)).earliest

/-! ### Tables -/

/-- A change of the clock every year: on a Sunday of a month, counted from one or the last if five, so
many seconds after the start of that day in UTC. -/
structure Recurrence where
  month : Nat
  week : Nat
  second : Int
  offset : Int

/-- The change of one year. -/
def Recurrence.change (r : Recurrence) (year : Int) : Int × Int :=
  let start : Date := ⟨year, r.month, 1⟩
  let firstSunday := 1 + (6 - start.weekday)
  let day := firstSunday + 7 * (r.week - 1)
  let day := if day ≤ daysInMonth year r.month then day else day - 7
  (daysFromCivil ⟨year, r.month, day⟩ * 86400 + r.second, r.offset)

/-- The changes of all years from one to the end of the century. -/
def recurring (year : Nat) (rules : List Recurrence) : List (Int × Int) :=
  (List.range (2101 - year)).flatMap fun (i : Nat) => rules.map fun r => r.change (year + i : Nat)

/-- The value of a numeral with a minus sign or none. -/
def readInt : List Char → Int
  | '-' :: ds => -(ds.foldl (fun n c => 10 * n + (c.toNat - 48)) 0 : Nat)
  | ds => (ds.foldl (fun n c => 10 * n + (c.toNat - 48)) 0 : Nat)

/-- Changes written as `INSTANT:OFFSET`, with blanks and line breaks between. -/
def readChanges (table : String) : List (Int × Int) :=
  ((table.toList.splitBy fun a b => (a == ' ' || a == '\n') == (b == ' ' || b == '\n')).filter
      fun word => word.contains ':').map fun word =>
    (readInt (word.takeWhile (· != ':')), readInt ((word.dropWhile (· != ':')).drop 1))

/-- A zone from its first offset, a table of changes, and the changes that recur from a year on. -/
def ofTable (name : String) (first : Int) (table : String) (year : Nat) (rules : List Recurrence) :
    Zone :=
  ⟨name, first, readChanges table ++ recurring year rules⟩

end Zone

end Reshape
