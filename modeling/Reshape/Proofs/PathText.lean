/-
Paths and their text.

The paths that are read from text are those that start with a key, and the root.  Each of them has a text that it is
read back from, whatever its names are: one that is not plain stands in quotes, with escapes.

* `Path.read_text` — a path is read from its text;
* `Path.exists_read_iff` — the paths that are read at all;
* `Path.text_inj` — two of them have different texts;
* `Path.read_survives` — reading and writing.
-/
import Reshape.Proofs.Forming

namespace Reshape.Path

variable {p q : Path}

theorem writeAll_path (p : Path) : Piece.writeAll [.token (.path p)] = p.text.toList := by
  rw [Piece.writeAll, List.flatMap_singleton]
  rfl

/-- A path is read from its text. -/
theorem read_text (hp : p.Rooted) : read p.text = .ok p := by
  have hlaid : Laid .newline [.token (.path p)] := ⟨hp, trivial, rfl, trivial⟩
  obtain ⟨_, htokens, t, _, rfl, hkind, -, -, eof, rfl, heof⟩ := tokenize_laid hlaid
  rw [writeAll_path, String.ofList_toList] at htokens
  rw [read, htokens]
  simp [hkind, heof]

/-- A path that is read is the one token of a text. -/
theorem exists_token_of_read {s : String} (h : read s = .ok p) :
    (∃ t ∈ (tokenize s).1, t.kind = .path p) ∧ ∀ t ∈ (tokenize s).1, t.kind = .eof ∨ t.kind = .path p := by
  unfold read at h
  split at h
  · cases h
  · rename_i tokens htokens
    split at h
    · rename_i p' hkinds
      obtain rfl : p' = p := Except.ok.inj h
      have hmem : ∀ k, k ∈ (tokens.map (·.kind)).filter (· != .eof) ↔ k = .path p' := by simp [hkinds]
      simp only [List.mem_filter, List.mem_map, bne_iff_ne, ne_eq] at hmem
      rw [htokens]
      obtain ⟨⟨t, ht, hkind⟩, -⟩ := (hmem (.path p')).2 rfl
      refine ⟨⟨t, ht, hkind⟩, fun u hu => or_iff_not_imp_left.2 fun heof => ?_⟩
      exact (hmem u.kind).1 ⟨⟨u, hu, rfl⟩, heof⟩
    · cases h

theorem rooted_of_read {s : String} (h : read s = .ok p) : p.Rooted := by
  obtain ⟨⟨t, ht, hkind⟩, hall⟩ := exists_token_of_read h
  have hplain : ∀ u ∈ (tokenize s).1, u.kind.IsPlain := by
    intro u hu
    rcases hall u hu with heof | hpath
    · rw [heof]
      exact ⟨nofun, nofun⟩
    · rw [hpath]
      exact ⟨nofun, nofun⟩
  have hsound := tokenize_sound hplain t ht
  rw [hkind] at hsound
  exact hsound nofun nofun

theorem exists_read_iff : (∃ s, read s = .ok p) ↔ p.Rooted :=
  ⟨fun ⟨_, h⟩ => rooted_of_read h, fun h => ⟨_, read_text h⟩⟩

theorem text_inj (hp : p.Rooted) (hq : q.Rooted) : p.text = q.text ↔ p = q := by
  refine ⟨fun h => ?_, congrArg text⟩
  have hread := read_text hp
  rw [h, read_text hq] at hread
  exact (Except.ok.inj hread).symm

/-- A path is read from its text if it is the root or starts with a key, and no other path is read from any text. -/
theorem read_survives :
    (∀ p : Path, (p = [] ∨ ∃ name rest, p = .key name :: rest) → read p.text = .ok p) ∧
      ∀ s p, read s = .ok p → p = [] ∨ ∃ name rest, p = .key name :: rest := by
  have hrooted : ∀ p : Path, p.Rooted ↔ p = [] ∨ ∃ name rest, p = .key name :: rest := by
    intro p
    rcases p with _ | ⟨_ | _, _⟩
    · simp [Rooted]
    · simp [Rooted]
    · simp [Rooted]
  exact ⟨fun p hp => read_text ((hrooted p).2 hp), fun s p h => (hrooted p).1 (rooted_of_read h)⟩

/-- Names that stand in quotes, one of them empty, and a position. -/
theorem read_survives_quoted :
    text [.key "", .index (-1), .key "\"\n"] = ".\"\"[-1].\"\\\"\\n\"" ∧
      read (text [.key "", .index (-1), .key "\"\n"]) = .ok [.key "", .index (-1), .key "\"\n"] :=
  ⟨by decide, read_survives.1 _ (.inr ⟨_, _, rfl⟩)⟩

end Reshape.Path
