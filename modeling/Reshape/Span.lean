/-
Regions of program text.

A region runs from one byte offset up to another; the line and the column, in characters from one, are those
of its start. `Span.join` makes one region of two.
-/
namespace Reshape

structure Span where
  start : Nat
  stop : Nat
  line : Nat
  column : Nat
deriving DecidableEq, Repr, Inhabited

namespace Span

/-- The region from the start of the first up to where the last of both stops. A second region that lies before the
first gives the start. -/
def join (a b : Span) : Span :=
  if b.stop ≤ a.start then { b with stop := max a.stop b.stop }
  else { a with stop := max a.stop b.stop }

def text (s : Span) : String :=
  s!"{s.line}:{s.column}"

theorem join_of_le {a b : Span} (h : b.stop ≤ a.start) : a.join b = { b with stop := max a.stop b.stop } :=
  if_pos h

theorem join_of_lt {a b : Span} (h : a.start < b.stop) : a.join b = { a with stop := max a.stop b.stop } :=
  if_neg (Nat.not_le_of_gt h)

theorem stop_join (a b : Span) : (a.join b).stop = max a.stop b.stop := by
  unfold join
  split
  · rfl
  · rfl

end Span

/-- A place in program text: its byte offset, line and column. -/
structure Mark where
  offset : Nat
  line : Nat
  column : Nat
deriving DecidableEq, Repr

namespace Mark

def origin : Mark := ⟨0, 1, 1⟩

/-- The place after a character. -/
def next (m : Mark) (c : Char) : Mark :=
  if c = '\n' then ⟨m.offset + c.utf8Size, m.line + 1, 1⟩
  else ⟨m.offset + c.utf8Size, m.line, m.column + 1⟩

/-- The place after some text. -/
def past (m : Mark) (cs : List Char) : Mark :=
  cs.foldl next m

/-- The region from one place to another. -/
def spanTo (m stop : Mark) : Span :=
  ⟨m.offset, stop.offset, m.line, m.column⟩

@[simp] theorem past_nil (m : Mark) : m.past [] = m := rfl

@[simp] theorem past_cons (m : Mark) (c : Char) (cs : List Char) :
    m.past (c :: cs) = (m.next c).past cs := rfl

theorem past_append (m : Mark) (xs ys : List Char) : m.past (xs ++ ys) = (m.past xs).past ys := by
  simp [past, List.foldl_append]

end Mark

end Reshape
