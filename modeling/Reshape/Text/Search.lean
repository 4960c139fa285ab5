/-
Searching in text.

An occurrence of a pattern is looked for from the left. `cut?` finds the first one; splitting, replacing
and looking for a pattern all go by it, so that occurrences never overlap.
-/
namespace Reshape.Text

/-- The text before the first occurrence of a pattern and the text after it. -/
def cut? (pattern : List Char) : List Char → Option (List Char × List Char)
  | [] => if pattern.isEmpty then some ([], []) else none
  | c :: rest =>
    if pattern.isPrefixOf (c :: rest) then some ([], (c :: rest).drop pattern.length)
    else (cut? pattern rest).map fun (before, after) => (c :: before, after)

def contains (pattern s : List Char) : Bool :=
  (cut? pattern s).isSome

/-- The cut gives the text back. -/
theorem append_of_cut? {pattern s before after : List Char}
    (h : cut? pattern s = some (before, after)) : before ++ pattern ++ after = s := by
  induction s generalizing before after with
  | nil =>
    simp only [cut?] at h
    split at h
    · rename_i hp
      simp_all
    · simp at h
  | cons c rest ih =>
    simp only [cut?] at h
    split at h
    · rename_i hp
      obtain ⟨t, ht⟩ := List.isPrefixOf_iff_prefix.1 hp
      simp only [Option.some.injEq, Prod.mk.injEq] at h
      obtain ⟨rfl, rfl⟩ := h
      rw [← ht]
      simp
    · obtain ⟨⟨b, a⟩, hc, he⟩ := Option.map_eq_some_iff.1 h
      simp only [Prod.mk.injEq] at he
      obtain ⟨rfl, rfl⟩ := he
      simp [← ih hc]

theorem length_of_cut? {pattern s before after : List Char} (hp : pattern ≠ [])
    (h : cut? pattern s = some (before, after)) : after.length < s.length := by
  have := congrArg List.length (append_of_cut? h)
  have : 0 < pattern.length := List.length_pos_iff.2 hp
  simp_all
  omega

/-- The pieces of a text between the occurrences of a pattern. The empty pattern occurs nowhere. -/
def splitOn (pattern s : List Char) : List (List Char) :=
  if _hp : pattern = [] then [s]
  else
    match _h : cut? pattern s with
    | none => [s]
    | some (before, after) => before :: splitOn pattern after
termination_by s.length
decreasing_by exact length_of_cut? _hp _h

/-- A text with every occurrence of a pattern replaced. The empty pattern occurs nowhere. -/
def replace (pattern new s : List Char) : List Char :=
  if _hp : pattern = [] then s
  else
    match _h : cut? pattern s with
    | none => s
    | some (before, after) => before ++ new ++ replace pattern new after
termination_by s.length
decreasing_by exact length_of_cut? _hp _h

/-- The pieces with a separator between them. -/
def join (separator : List Char) : List (List Char) → List Char
  | [] => []
  | [s] => s
  | s :: rest => s ++ separator ++ join separator rest

end Reshape.Text
