/-
Excerpts of a program.

The region of some text has an excerpt: the whole line on which the text starts, with a mark under as much of the text
as is on that line.

* `splitAtByte_append` — text is cut where some of it ends;
* `locate_ofText` — the excerpt for the region of some text;
* `Diagnostic.exists_render` — the line of an excerpt is printed.
-/
import Mathlib.Data.List.DropRight
import Reshape.Diagnostic.Render
import Reshape.Proofs.Tiling

namespace Reshape

open Text (utf8Length)

theorem splitAtByte_append (xs ys : List Char) : splitAtByte (utf8Length xs) (xs ++ ys) = some (xs, ys) := by
  induction xs with
  | nil => simp [splitAtByte]
  | cons c xs ih =>
    obtain ⟨n, hn⟩ : ∃ n, utf8Length (c :: xs) = n + 1 :=
      Nat.exists_eq_succ_of_ne_zero (Text.utf8Length_pos (List.cons_ne_nil c xs)).ne'
    have hle : c.utf8Size ≤ n + 1 := hn ▸ Nat.le_add_right _ _
    have hrest : n + 1 - c.utf8Size = utf8Length xs := by
      rw [← hn, Text.utf8Length_cons, Nat.add_sub_cancel_left]
    rw [hn, List.cons_append, splitAtByte, if_pos hle, hrest, ih]
    rfl

/-- The text of the line behind some text, cut where the text ends or the line does. -/
theorem splitAtByte_line (text back : List Char) :
    ∃ more, splitAtByte (min (utf8Length text) (utf8Length ((text ++ back).takeWhile (· != '\n'))))
      ((text ++ back).takeWhile (· != '\n')) = some (text.takeWhile (· != '\n'), more) := by
  rw [List.takeWhile_append]
  -- either the text ends on the line, or the line in the text
  split
  · rename_i hline
    have hself : text.takeWhile (· != '\n') = text :=
      (List.takeWhile_prefix _).eq_of_length hline
    rw [hself, Nat.min_eq_left (by simp)]
    exact ⟨_, splitAtByte_append text _⟩
  · have hle : utf8Length (text.takeWhile (· != '\n')) ≤ utf8Length text := by
      obtain ⟨rest, hrest⟩ := List.takeWhile_prefix (l := text) (· != '\n')
      rw [← hrest, Text.utf8Length_append, hrest]
      exact Nat.le_add_right _ _
    rw [Nat.min_eq_right hle]
    exact ⟨[], by simpa using splitAtByte_append (text.takeWhile (· != '\n')) []⟩

/-- The excerpt for some text: the line on which it starts, from the line break in front to the one behind. -/
def Excerpt.ofText (front text back : List Char) : Excerpt where
  line := front.count '\n' + 1
  text := trimEnd '\r' (front.rtakeWhile (· != '\n') ++ (text ++ back).takeWhile (· != '\n'))
  indent := (front.rtakeWhile (· != '\n')).length
  width := max 1 (text.takeWhile (· != '\n')).length

theorem locate_ofText (front text back : List Char) :
    locate (front ++ text ++ back) (.ofText front text) = some (.ofText front text back) := by
  obtain ⟨more, hmore⟩ := splitAtByte_line text back
  have hstart : min (Span.ofText front text).start (utf8Length (front ++ text ++ back)) = utf8Length front := by
    simp [Span.ofText]
  have hlength : (Span.ofText front text).stop - (Span.ofText front text).start = utf8Length text := by
    simp [Span.ofText]
  rw [locate, hstart, hlength, List.append_assoc, splitAtByte_append]
  simp only [Option.bind_eq_bind, Option.bind_some, hmore]
  rfl

/-- The line of an excerpt as it is printed, behind its number. -/
def Excerpt.numbered (coloured : Bool) (e : Excerpt) : String :=
  Style.blue.paint coloured (toString e.line) ++ " " ++ Style.blue.paint coloured "│" ++ " " ++ String.ofList e.text

theorem Diagnostic.numbered_mem_lines {source : List Char} {d : Diagnostic} {e : Excerpt}
    (h : d.span.bind (locate source) = some e) (coloured : Bool) : e.numbered coloured ∈ d.lines source coloured := by
  simp [lines, h, Excerpt.numbered]

theorem Diagnostic.exists_render {source : List Char} {d : Diagnostic} {e : Excerpt}
    (h : d.span.bind (locate source) = some e) (coloured : Bool) :
    ∃ above below, d.render source coloured = above ++ (e.numbered coloured ++ "\n") ++ below := by
  obtain ⟨above, below, hlines⟩ := List.append_of_mem (numbered_mem_lines h coloured)
  refine ⟨String.join (above.map (· ++ "\n")), String.join (below.map (· ++ "\n")), ?_⟩
  rw [render, hlines, List.map_append, List.map_cons, String.join_append, String.join_cons]
  simp only [String.append_assoc]

end Reshape
