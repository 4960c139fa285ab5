/-
Programs read line after line.

Where two texts are read without a diagnostic, so are both with a line break between them: first the statements
of the one, then those of the other, further down.

* `Expr.statements_append` — the statements of a program are read first, and then those behind a seam;
* `Expr.parse_append` — this for the tokens of two texts.
-/
import Reshape.Proofs.Mirroring

namespace Reshape

namespace Expr

open Parse

variable {S : Seam} {c d : Cursor}

/-- The statements of a program are read first, and then those behind the seam. -/
theorem statements_append {fuel fuel' : Nat} {c' : Cursor} {es : List Expr} (h : Alike S c d)
    (hseam : ∀ t ∈ S.tail.head?, t.kind ≠ .rParen) (hfuel : Fed 6 fuel c) (hfuel' : Fed 6 fuel' d)
    (hrun : (statements fuel false).run c = (some es, c')) (hclean : c'.notes = []) :
    ∃ k last, Fed 6 k ⟨S.tail, last, []⟩ ∧ ∀ rest d',
      (statements k false).run ⟨S.tail, last, []⟩ = (some rest, d') →
        (statements fuel' false).run d = (some (shiftAll S.shift es ++ rest), d') := by
  induction fuel generalizing fuel' c d es with
  | zero =>
    simp only [Fed] at hfuel
    omega
  | succ fuel ih =>
    obtain ⟨fuel', rfl⟩ := hfuel'.exists_succ
    have hinv := exists_of_statements h.valid hfuel hrun hclean
    simp only [Fed] at hfuel hfuel'
    have hle₁ := c.skipSeparators_reads.length_le
    have hle₁' := d.skipSeparators_reads.length_le
    rcases skipSeparators_alike h with ⟨h₁, hkind, hne⟩ | ⟨hlost, last, hlast⟩
    · -- before the seam: a statement, and what follows it by induction
      rcases hinv with ⟨hstops, -⟩ | ⟨e, c₁, rest, hbrace, heof, he, hcloses, hrest, rfl⟩
      · exact absurd hstops (by simp [Stops, hne])
      · have hkept := (((readersRead fuel).statements false c₁).to hrest).clean hclean
        obtain ⟨d₁, he', h₂⟩ : ∃ d₁, (statement fuel').run d.skipSeparators = (some (e.shift S.shift), d₁) ∧
            Alike S c₁ d₁ :=
          (readersMirror S fuel).statement h₁ (by simp only [Fed]; omega) (by simp only [Fed]; omega) e c₁
            he hkept
        have hlt₂ := ((readersRead fuel).statement c.skipSeparators).lt he
        have hlt₂' := ((readersRead fuel').statement d.skipSeparators).lt he'
        have hfed' : Fed 6 fuel' d₁ := by simp only [Fed]; omega
        obtain ⟨k, last, hk, hbehind⟩ := ih h₂ (by simp only [Fed]; omega) hfed' hrest
        refine ⟨k, last, hk, fun more d' hmore => ?_⟩
        exact statements_of_closes (hkind ▸ hbrace) (hkind ▸ heof) he' (closes_of_alike h₂ hseam hcloses)
          (hbehind more d' hmore)
    · -- at the seam: the program is done, and the other reader goes on
      rcases hinv with ⟨-, rfl, -⟩ | ⟨e, c₁, rest, hbrace, heof, -⟩
      · have hlen : S.tail.length ≤ d.tokens.length := by
          obtain ⟨body, -, -, hd⟩ := h.tokens
          simp [hd]
        refine ⟨fuel' + 1, last, by simp only [Fed]; omega, fun more d' hmore => ?_⟩
        exact (statements_congr fuel' false hlast).trans hmore
      · exact absurd hlost heof

/-- Statements are read in the same way further down. -/
theorem statements_shift (δ : Shift) {ts : List Token} {stop : Token} {fuel fuel' : Nat} {last : Span} {c' : Cursor}
    {es : List Expr} (hinner : ∀ t ∈ ts, t.Inner) (hstop : stop.kind = .eof)
    (hfuel : Fed 6 fuel ⟨ts ++ [stop], last, []⟩)
    (hrun : (statements fuel false).run ⟨ts ++ [stop], last, []⟩ = (some es, c')) (hclean : c'.notes = [])
    (last' : Span) (hfuel' : Fed 6 fuel' ⟨(ts ++ [stop]).map (·.shift δ), last', []⟩) :
    ∃ d', (statements fuel' false).run ⟨(ts ++ [stop]).map (·.shift δ), last', []⟩ =
      (some (shiftAll δ es), d') ∧ d'.notes = [] := by
  -- the seam at the end of the text
  let S : Seam :=
    { shift := δ
      ends := [stop]
      tail := [stop.shift δ]
      ends_eq := ⟨stop, hstop, .inl rfl⟩
      tail_eq := ⟨stop.shift δ, [], rfl, .inl hstop⟩
      noElse := by
        intro t rest h helse
        have ht : t ∈ [stop.shift δ] := (List.dropWhile_sublist _).subset (h ▸ List.mem_cons_self)
        rw [List.mem_singleton.1 ht, Token.kind_shift, hstop] at helse
        cases helse }
  have halike : Alike S ⟨ts ++ [stop], last, []⟩ ⟨(ts ++ [stop]).map (·.shift δ), last', []⟩ :=
    ⟨rfl, ts, hinner, rfl, by simp [S]⟩
  obtain ⟨k, last'', hk, hbehind⟩ := statements_append halike (by simp [S, hstop]) hfuel hfuel' hrun hclean
  obtain ⟨k, rfl⟩ := hk.exists_succ
  have heof : Cursor.kind ⟨[stop.shift δ], last'', []⟩ = .eof := hstop
  have hskip : Cursor.skipSeparators ⟨[stop.shift δ], last'', []⟩ = ⟨[stop.shift δ], last'', []⟩ :=
    Cursor.skipWhile_of_kind (by simp [heof])
  have hend : (statements (k + 1) false).run ⟨[stop.shift δ], last'', []⟩ =
      (some [], ⟨[stop.shift δ], last'', []⟩) := by
    rw [statements_of_stops k (.inl (by rw [hskip, heof])), hskip]
  exact ⟨_, by rw [hbehind [] _ hend, List.append_nil], rfl⟩

/-- A text that is read well is read well behind the line breaks at its start. -/
theorem statements_of_parse {lead back : List Token} {stop : Token} {es : List Expr}
    (hlead : ∀ t ∈ lead, t.kind = .newline) (hstop : stop.kind = .eof)
    (h : parse (lead ++ (back ++ [stop])) = .ok (es, [])) :
    ∃ fuel last c', Fed 6 fuel ⟨back ++ [stop], last, []⟩ ∧
      (statements fuel false).run ⟨back ++ [stop], last, []⟩ = (some es, c') ∧ c'.notes = [] := by
  rw [← List.append_assoc, parse_eq hstop] at h
  obtain ⟨c', hrun, hclean⟩ := h
  rw [List.append_assoc] at hrun
  obtain ⟨last, hlast⟩ := Cursor.exists_skipSeparators_append hlead (back ++ [stop]) ⟨0, 0, 0, 0⟩ []
  rw [fuelFor, statements_congr _ false hlast] at hrun
  refine ⟨_, last, c', ?_, hrun, hclean⟩
  simp only [Fed, List.length_append, List.length_singleton]
  omega

/-- No text that is read well starts with an `else`. -/
theorem kind_ne_else_of_dropWhile {ts : List Token} {fuel : Nat} {last : Span} {c' : Cursor} {es : List Expr}
    (hvalid : Cursor.Valid ⟨ts, last, []⟩) (hfuel : Fed 6 fuel ⟨ts, last, []⟩)
    (hrun : (statements fuel false).run ⟨ts, last, []⟩ = (some es, c')) (hclean : c'.notes = [])
    {t : Token} {rest : List Token} (hdrop : ts.dropWhile (·.kind == .newline) = t :: rest) :
    t.kind ≠ .kwElse := by
  intro hkind
  obtain ⟨fuel, rfl⟩ := hfuel.exists_succ
  have helse : (Cursor.skipNewlines ⟨ts, last, []⟩).kind = .kwElse := by
    rw [Cursor.kind_cons _ ((Cursor.tokens_skipNewlines _).trans hdrop), hkind]
  have hne := kind_ne_else_of_statements hvalid hfuel hrun hclean
  rw [Cursor.skipSeparators_eq (by simp [helse])] at hne
  exact hne helse

/-- The seam at a line break `nl` with the tokens `ts` behind it, `δ` further down. -/
def Seam.lineBreak (δ : Shift) {nl stop : Token} {ends ts : List Token} (hnl : nl.kind = .newline)
    (hstop : stop.kind = .eof) (hends : ends = [stop] ∨ ends = [nl, stop])
    (helse : ∀ t rest, ts.dropWhile (·.kind == .newline) = t :: rest → t.kind ≠ .kwElse) : Seam where
  shift := ⟨0, 0⟩
  ends := ends
  tail := nl :: ts.map (·.shift δ)
  ends_eq := ⟨stop, hstop, hends.imp id fun h => ⟨nl, hnl, h⟩⟩
  tail_eq := ⟨nl, _, rfl, .inr (.inl hnl)⟩
  noElse := by
    intro t rest h
    rw [List.dropWhile_cons_of_pos (by simp [hnl]), List.dropWhile_map] at h
    obtain ⟨t', rest', hdrop, rfl, -⟩ := List.map_eq_cons_iff.1 h
    exact helse t' rest' hdrop

/-- Two texts that are read well, with a line break between them. -/
theorem parse_append {a b : String} {as bs : List Expr} (hlexA : (tokenize a).2 = [])
    (hlexB : (tokenize b).2 = []) (ha : parse (tokenize a).1 = .ok (as, []))
    (hb : parse (tokenize b).1 = .ok (bs, [])) :
    (tokenize (a ++ "\n" ++ b)).2 = [] ∧
      parse (tokenize (a ++ "\n" ++ b)).1 = .ok (as ++ shiftAll (.past a) bs, []) := by
  obtain ⟨front, ends, lead, back, nl, stop, stop', hinner, hnl, hstop, hstop', hends, hlead, htokensA,
    htokensB, htokens⟩ := tokenize_append hlexA hlexB
  rw [htokens]
  refine ⟨rfl, ?_⟩
  -- the line breaks at the start of the second text run into the one between the texts
  rw [htokensB] at hb
  obtain ⟨fuelB, lastB, cb, hfuelB, hrunB, hcleanB⟩ := statements_of_parse hlead hstop' hb
  have hvalidB : Cursor.Valid ⟨back ++ [stop'], lastB, []⟩ := by
    intro t ht
    rcases List.mem_append.1 ht with ht | ht
    · exact (hinner t (List.mem_append_right _ ht)).2
    · simp [List.mem_singleton.1 ht, hstop']
  let S := Seam.lineBreak (.past a) hnl hstop hends
    fun t rest hdrop => kind_ne_else_of_dropWhile hvalidB hfuelB hrunB hcleanB hdrop
  -- the first text up to the seam
  obtain ⟨front', hfront'⟩ : ∃ front', front ++ ends = front' ++ [stop] := by
    rcases hends with rfl | rfl
    · exact ⟨front, rfl⟩
    · exact ⟨front ++ [nl], by simp⟩
  rw [htokensA, hfront', parse_eq hstop] at ha
  obtain ⟨ca, hrunA, hcleanA⟩ := ha
  rw [← hfront'] at hrunA
  have hlength := congrArg List.length hfront'
  simp only [List.length_append, List.length_singleton] at hlength
  have hall : front ++ nl :: (back ++ [stop']).map (·.shift (.past a)) =
      (front ++ nl :: back.map (·.shift (.past a))) ++ [stop'.shift (.past a)] := by
    simp
  have halike : Alike S ⟨front ++ ends, ⟨0, 0, 0, 0⟩, []⟩
      ⟨front ++ nl :: (back ++ [stop']).map (·.shift (.past a)), ⟨0, 0, 0, 0⟩, []⟩ :=
    ⟨rfl, front, fun t ht => hinner t (List.mem_append_left _ ht), rfl, by simp [S, Seam.lineBreak]⟩
  obtain ⟨k, last, hk, hbehind⟩ := statements_append halike (by simp [S, Seam.lineBreak, hnl])
    (by simp only [Fed, fuelFor, List.length_append]; omega)
    (show Fed 6 (fuelFor ((front ++ nl :: back.map (·.shift (.past a))).length + 1)) _ by
      simp only [Fed, fuelFor, hall, List.length_append, List.length_singleton]; omega) hrunA hcleanA
  obtain ⟨k, rfl⟩ := hk.exists_succ
  -- and the second text behind it
  obtain ⟨d', hrun', hclean'⟩ := statements_shift (.past a) (fun t ht => hinner t (List.mem_append_right _ ht))
    hstop' hfuelB hrunB hcleanB nl.span
    (show Fed 6 (k + 1) _ by
      simp only [Fed, S, Seam.lineBreak, List.length_cons] at hk ⊢
      omega)
  rw [hall, parse_eq (by exact hstop'), ← hall]
  refine ⟨d', ?_, hclean'⟩
  rw [hbehind _ d' ((statements_congr k false (Cursor.skipSeparators_cons hnl _ last [])).trans hrun')]
  simp [S, Seam.lineBreak, shiftAll_zero]

end Expr

end Reshape
