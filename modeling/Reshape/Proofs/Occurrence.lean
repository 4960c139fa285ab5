/-
Occurrences of a pattern in text.

Looking for a pattern, splitting at it and replacing it go by one notion of occurrence: the first one is cut out, and
the next is looked for in the text behind it.  So the pieces hold no occurrence, there is one more of them than cuts,
and what is put between them again is what is put in place of the pattern.

* `Text.contains_iff`, `Text.not_prefix_of_cut?` — a cut is made exactly if the pattern occurs, and where it does first;
* `Text.cut_induction` — what holds of text without the pattern, and of text with a cut if it does behind the cut;
* `Text.join_splitOn`, `Text.not_infix_of_mem_splitOn`, `Text.one_lt_length_splitOn_iff`, `Text.replace_eq_join` — the
  pieces;
* `Function.split_pieces` — the functions.
-/
import Mathlib.Data.List.Infix
import Reshape.Function.Call
import Reshape.Function.Collection
import Reshape.Function.Text

namespace Reshape

namespace Text

variable {pattern s before after : List Char}

/-! ### Cuts -/

theorem contains_iff : contains pattern s = true ↔ pattern <:+: s := by
  rw [contains]
  induction s with
  | nil =>
    rw [cut?, List.infix_nil]
    cases pattern <;> simp
  | cons c rest ih =>
    rw [cut?, List.infix_cons_iff, ← ih, ← List.isPrefixOf_iff_prefix]
    split
    · rename_i h
      simp [h]
    · rename_i h
      simp [h]

theorem cut?_eq_none_iff : cut? pattern s = none ↔ ¬pattern <:+: s := by
  rw [← contains_iff, contains, Bool.not_eq_true, Option.isSome_eq_false_iff, Option.isNone_iff_eq_none]

/-- The cut is at the first occurrence. -/
theorem not_prefix_of_cut? (h : cut? pattern s = some (before, after)) {n : ℕ} (hn : n < before.length) :
    ¬pattern <+: s.drop n := by
  induction s generalizing before n with
  | nil =>
    rw [cut?] at h
    split at h <;> cases h
    cases hn
  | cons c rest ih =>
    rw [cut?] at h
    split at h
    · cases h
      cases hn
    · rename_i hprefix
      obtain ⟨⟨before', after'⟩, hrest, hcut⟩ := Option.map_eq_some_iff.1 h
      cases hcut
      cases n with
      | zero => rwa [List.drop_zero, ← List.isPrefixOf_iff_prefix]
      | succ n => exact ih hrest (Nat.lt_of_succ_lt_succ hn)

/-- In front of a cut the pattern does not occur. -/
theorem not_infix_of_cut? (hp : pattern ≠ []) (h : cut? pattern s = some (before, after)) : ¬pattern <:+: before := by
  rintro ⟨front, back, rfl⟩
  have hlength : 0 < pattern.length := List.length_pos_iff.2 hp
  have hs := append_of_cut? h
  refine not_prefix_of_cut? h (n := front.length) (by simp; omega) ⟨back ++ pattern ++ after, ?_⟩
  rw [← hs]
  simp

/-- What holds of text in which a pattern does not occur, and of text with a cut if it does of the text behind the cut,
holds of all text. -/
theorem cut_induction {P : List Char → Prop} (hp : pattern ≠ []) (whole : ∀ s, cut? pattern s = none → P s)
    (cut : ∀ s before after, cut? pattern s = some (before, after) → P after → P s) (s : List Char) : P s := by
  induction hlength : s.length using Nat.strongRecOn generalizing s with
  | ind n ih =>
    cases hcut : cut? pattern s with
    | none => exact whole s hcut
    | some parts =>
      obtain ⟨before, after⟩ := parts
      have hshorter : after.length < n := hlength ▸ length_of_cut? hp hcut
      exact cut s before after hcut (ih _ hshorter after rfl)

/-! ### Pieces -/

theorem splitOn_of_none (hp : pattern ≠ []) (h : cut? pattern s = none) : splitOn pattern s = [s] := by
  rw [splitOn, dif_neg hp]
  split
  · rfl
  · rename_i hcut
    cases h.symm.trans hcut

theorem splitOn_of_some (hp : pattern ≠ []) (h : cut? pattern s = some (before, after)) :
    splitOn pattern s = before :: splitOn pattern after := by
  rw [splitOn, dif_neg hp]
  split
  · rename_i hcut
    cases h.symm.trans hcut
  · rename_i hcut
    cases h.symm.trans hcut
    rfl

theorem replace_of_none (hp : pattern ≠ []) (new : List Char) (h : cut? pattern s = none) :
    replace pattern new s = s := by
  rw [replace, dif_neg hp]
  split
  · rfl
  · rename_i hcut
    cases h.symm.trans hcut

theorem replace_of_some (hp : pattern ≠ []) (new : List Char) (h : cut? pattern s = some (before, after)) :
    replace pattern new s = before ++ new ++ replace pattern new after := by
  rw [replace, dif_neg hp]
  split
  · rename_i hcut
    cases h.symm.trans hcut
  · rename_i hcut
    cases h.symm.trans hcut
    rfl

theorem splitOn_ne_nil (hp : pattern ≠ []) (s : List Char) : splitOn pattern s ≠ [] := by
  cases hcut : cut? pattern s with
  | none => simp [splitOn_of_none hp hcut]
  | some parts => simp [splitOn_of_some hp hcut]

theorem join_cons (separator s : List Char) {pieces : List (List Char)} (h : pieces ≠ []) :
    join separator (s :: pieces) = s ++ separator ++ join separator pieces := by
  cases pieces with
  | nil => exact absurd rfl h
  | cons t pieces => rfl

/-- What is put in place of the pattern is put between the pieces. -/
theorem replace_eq_join (hp : pattern ≠ []) (new s : List Char) :
    replace pattern new s = join new (splitOn pattern s) := by
  induction s using cut_induction hp with
  | whole s h => rw [replace_of_none hp new h, splitOn_of_none hp h, join]
  | cut s before after h ih =>
    rw [replace_of_some hp new h, splitOn_of_some hp h, join_cons new before (splitOn_ne_nil hp after), ih]

theorem join_splitOn (hp : pattern ≠ []) (s : List Char) : join pattern (splitOn pattern s) = s := by
  induction s using cut_induction hp with
  | whole s h => rw [splitOn_of_none hp h, join]
  | cut s before after h ih =>
    rw [splitOn_of_some hp h, join_cons pattern before (splitOn_ne_nil hp after), ih, append_of_cut? h]

theorem not_infix_of_mem_splitOn (hp : pattern ≠ []) {piece : List Char} (h : piece ∈ splitOn pattern s) :
    ¬pattern <:+: piece := by
  induction s using cut_induction hp with
  | whole s hcut =>
    rw [splitOn_of_none hp hcut, List.mem_singleton] at h
    exact h ▸ cut?_eq_none_iff.1 hcut
  | cut s before after hcut ih =>
    rw [splitOn_of_some hp hcut, List.mem_cons] at h
    rcases h with rfl | h
    · exact not_infix_of_cut? hp hcut
    · exact ih h

theorem one_lt_length_splitOn_iff (hp : pattern ≠ []) (s : List Char) :
    1 < (splitOn pattern s).length ↔ pattern <:+: s := by
  cases hcut : cut? pattern s with
  | none =>
    rw [splitOn_of_none hp hcut]
    exact iff_of_false (by simp) (cut?_eq_none_iff.1 hcut)
  | some parts =>
    have hmore : 0 < (splitOn pattern parts.2).length := List.length_pos_iff.2 (splitOn_ne_nil hp parts.2)
    rw [splitOn_of_some hp hcut, List.length_cons]
    exact iff_of_true (by omega) (contains_iff.1 (by rw [contains, hcut]; rfl))

/-- Without a separator the pieces are put end to end. -/
theorem join_nil_eq_flatten (pieces : List (List Char)) : join [] pieces = pieces.flatten := by
  induction pieces with
  | nil => rfl
  | cons s pieces ih =>
    cases pieces with
    | nil => simp [join]
    | cons t pieces => rw [join_cons [] s (List.cons_ne_nil t pieces), ih, List.append_nil, ← List.flatten_cons]

end Text

/-! ### The functions -/

namespace Function

open Text (splitOn)

variable (surroundings : Surroundings) (serial : Nat) (root : Value) (place place' place'' : Option Path)

theorem strings_map_string (pieces : List String) :
    strings (pieces.map .string) = .ok (pieces.map String.toList) := by
  induction pieces with
  | nil => rfl
  | cons piece pieces ih =>
    rw [List.map_cons, strings, ih]
    rfl

theorem contains_call (s p : String) :
    contains.call surroundings serial root [⟨.string s, true, place⟩, ⟨.string p, true, place'⟩] =
      (.ok (.boolean (Text.contains p.toList s.toList)), root) :=
  rfl

theorem join_call (pieces : List String) (p : String) :
    join.call surroundings serial root [⟨.array (pieces.map .string), true, place⟩, ⟨.string p, true, place'⟩] =
      (.ok (.string (String.ofList (Text.join p.toList (pieces.map String.toList)))), root) := by
  show ((do return .string (String.ofList (Text.join p.toList (← strings (pieces.map .string)))) :
    Except Failure Value), root) = _
  rw [strings_map_string]
  rfl

theorem replace_call {p : String} (hp : p ≠ "") (s w : String) :
    replace.call surroundings serial root
        [⟨.string s, true, place⟩, ⟨.string p, true, place'⟩, ⟨.string w, true, place''⟩] =
      (.ok (.string (String.ofList (Text.replace p.toList w.toList s.toList))), root) := by
  have hempty : p.isEmpty = false := by simpa [Bool.eq_false_iff, String.isEmpty_iff] using hp
  show ((do
    if p.isEmpty then throw (.invalidArgument "replace pattern must not be empty")
    return textValue (Text.replace p.toList w.toList s.toList) : Except Failure Value), root) = _
  rw [hempty]
  rfl

/-- The pieces that a text is split into: its characters if the pattern is empty. -/
def pieces (s p : String) : List String :=
  (if p = "" then s.toList.map fun c => [c] else splitOn p.toList s.toList).map String.ofList

theorem map_toList_pieces (s p : String) :
    (pieces s p).map String.toList = if p = "" then s.toList.map fun c => [c] else splitOn p.toList s.toList := by
  rw [pieces, List.map_map]
  simp

theorem split_call (s p : String) :
    split.call surroundings serial root [⟨.string s, true, place⟩, ⟨.string p, true, place'⟩] =
      (.ok (.array ((pieces s p).map .string)), root) := by
  show (Except.ok (Value.array (if p.toList.isEmpty then s.toList.map fun c => textValue [c]
    else (splitOn p.toList s.toList).map textValue)), root) = _
  rw [pieces, List.map_map]
  by_cases hp : p = ""
  · subst hp
    simp [textValue, Function.comp_def]
  · simp [hp, textValue, Function.comp_def]

theorem join_pieces (s p : String) : Text.join p.toList ((pieces s p).map String.toList) = s.toList := by
  rw [map_toList_pieces]
  split
  · rename_i hp
    rw [hp, String.toList_empty, Text.join_nil_eq_flatten, ← List.flatMap_def, List.flatMap_singleton']
  · rename_i hp
    exact Text.join_splitOn (by simpa using hp) s.toList

/-- A text is put together again from its pieces, with the pattern between them.  If the pattern is not empty, no piece
holds it, there are several pieces exactly if the text does, and replacing the pattern is to put something else between
the pieces.  To hold a pattern is to have it somewhere in a row. -/
theorem split_pieces (s p w : String) :
    (∀ t : String, contains.call surroundings serial root [⟨.string t, true, place⟩, ⟨.string p, true, place'⟩] =
      (.ok (.boolean (decide (p.toList <:+: t.toList))), root)) ∧
    ∃ pieces : List String,
      split.call surroundings serial root [⟨.string s, true, place⟩, ⟨.string p, true, place'⟩] =
        (.ok (.array (pieces.map .string)), root) ∧
      join.call surroundings serial root [⟨.array (pieces.map .string), true, place⟩, ⟨.string p, true, place'⟩] =
        (.ok (.string s), root) ∧
      (p ≠ "" →
        (∀ piece ∈ pieces, contains.call surroundings serial root
          [⟨.string piece, true, place⟩, ⟨.string p, true, place'⟩] = (.ok (.boolean false), root)) ∧
        contains.call surroundings serial root [⟨.string s, true, place⟩, ⟨.string p, true, place'⟩] =
          (.ok (.boolean (decide (1 < pieces.length))), root) ∧
        ∃ text,
          replace.call surroundings serial root
            [⟨.string s, true, place⟩, ⟨.string p, true, place'⟩, ⟨.string w, true, place''⟩] =
              (.ok (.string text), root) ∧
          join.call surroundings serial root
            [⟨.array (pieces.map .string), true, place⟩, ⟨.string w, true, place''⟩] = (.ok (.string text), root)) := by
  have hcontains (t : String) : Text.contains p.toList t.toList = decide (p.toList <:+: t.toList) := by
    rw [Bool.eq_iff_iff, Text.contains_iff, decide_eq_true_iff]
  refine ⟨fun t => by rw [contains_call, hcontains], pieces s p, split_call .., ?_, fun hp => ?_⟩
  · rw [join_call, join_pieces, String.ofList_toList]
  · have hpattern : p.toList ≠ [] := by simpa using hp
    have hpieces : (pieces s p).map String.toList = splitOn p.toList s.toList := by rw [map_toList_pieces, if_neg hp]
    have hlength : (pieces s p).length = (splitOn p.toList s.toList).length := by rw [← hpieces, List.length_map]
    refine ⟨fun piece hpiece => ?_, ?_, _, replace_call surroundings serial root place place' place'' hp s w, ?_⟩
    · have hnot := Text.not_infix_of_mem_splitOn hpattern (hpieces ▸ List.mem_map_of_mem hpiece)
      rw [contains_call, hcontains, decide_eq_false hnot]
    · rw [contains_call, hcontains, hlength, decide_eq_decide.2 (Text.one_lt_length_splitOn_iff hpattern s.toList)]
    · rw [join_call, hpieces, Text.replace_eq_join hpattern]

/-- Occurrences at both ends of a text, some of which overlap. -/
theorem split_pieces_overlapping :
    let here : Surroundings := ⟨.fixed "UTC" 0, ⟨0, 0, 0⟩, 0⟩
    "aa" ≠ "" ∧ ∃ pieces : List String,
      split.call here 0 .null [⟨.string "aaaéaa", true, none⟩, ⟨.string "aa", true, none⟩] =
        (.ok (.array (pieces.map .string)), .null) ∧
      1 < pieces.length ∧
      (∀ piece ∈ pieces, contains.call here 0 .null [⟨.string piece, true, none⟩, ⟨.string "aa", true, none⟩] =
        (.ok (.boolean false), .null)) ∧
      join.call here 0 .null [⟨.array (pieces.map .string), true, none⟩, ⟨.string "-", true, none⟩] =
        replace.call here 0 .null
          [⟨.string "aaaéaa", true, none⟩, ⟨.string "aa", true, none⟩, ⟨.string "-", true, none⟩] := by
  intro here
  have hp : "aa" ≠ "" := by decide
  obtain ⟨-, pieces, hsplit, -, hpieces⟩ := split_pieces here 0 .null none none none "aaaéaa" "aa" "-"
  obtain ⟨hnone, hseveral, text, hreplace, hjoin⟩ := hpieces hp
  have hcontains : contains.call here 0 .null [⟨.string "aaaéaa", true, none⟩, ⟨.string "aa", true, none⟩] =
      (.ok (.boolean true), .null) := rfl
  have hlength : 1 < pieces.length := by simpa using hseveral.symm.trans hcontains
  exact ⟨hp, pieces, hsplit, hlength, hnone, hjoin.trans hreplace.symm⟩

end Function

end Reshape
