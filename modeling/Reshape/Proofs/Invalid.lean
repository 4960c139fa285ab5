/-
Text that is no token is reported once.

An invalid token comes with one diagnostic, about a piece of its text.  The parser records no other about it, as what
it complains about starts at a token that is not invalid.

* `Scan.token_within` — an issue is about text that its scanner has seen;
* `Lexer.told_run` — the lexemes of a text, each with the text of its token and of its diagnostic;
* `reports_once` — an invalid token has one diagnostic, in order, and none of the parser.
-/
import Mathlib.Data.List.Forall2
import Reshape.Proofs.Complaints
import Reshape.Proofs.Tiling
import Reshape.Proofs.Regions

namespace Reshape

open Scan

/-- The issue is about text from `s` on and not behind `rest`. -/
structure Issue.Within (e : Issue) (s rest : List Char) : Prop where
  starts : e.leftAtStart ≤ s.length
  goes : e.leftAtStop ≤ e.leftAtStart
  stops : rest.length ≤ e.leftAtStop

namespace Scan

/-! ### Issues of scanners -/

/-- What is wrong is between the start of the text and where the scanner has stopped. -/
def Located {α : Type} (s : List Char) (o : Outcome α) : Prop :=
  ∀ e, o.1 = .error e → e.Within s o.2

variable {α β : Type} {s s' rest : List Char}

theorem located_ok (a : α) : Located s (.ok a, rest) :=
  fun _ h => by cases h

/-- An issue about all the text that has been scanned. -/
theorem located_issue (code : Code) (message label : String) (h : rest <:+ s) :
    Located s ((.error (issue code message label s rest), rest) : Outcome α) := by
  rintro _ ⟨⟩
  exact ⟨Nat.le_refl _, h.length_le, Nat.le_refl _⟩

theorem Located.of_suffix {o : Outcome α} (h : Located s o) (hs : s <:+ s') : Located s' o := by
  intro e he
  obtain ⟨hstarts, hgoes, hstops⟩ := h e he
  exact ⟨Nat.le_trans hstarts hs.length_le, hgoes, hstops⟩

theorem Located.map {o : Outcome α} (h : Located s o) (f : α → β) : Located s (o.1.map f, o.2) := by
  obtain ⟨e | a, rest⟩ := o
  · rintro _ ⟨⟩
    exact h e rfl
  · exact located_ok _

theorem badEscape_within {start stop : Nat} (hrest : (stringBody s).rest = some rest)
    (hbad : (stringBody s).badEscape = some (start, stop)) : start ≤ s.length ∧ stop ≤ start ∧ rest.length ≤ stop := by
  fun_induction stringBody s with
  | case1 => cases hbad
  | case2 => cases hbad
  | case3 s body hne decoded hdecoded ih =>
    obtain ⟨hstart, hgoes, hstops⟩ := ih hrest hbad
    have hle := length_escape_le s
    refine ⟨?_, hgoes, hstops⟩
    simp only [List.length_cons]
    omega
  | case4 s body hne hnone ih =>
    obtain ⟨rfl, rfl⟩ : s.length + 1 = start ∧ (escape s).2.length = stop := by simpa using hbad
    have hle := length_escape_le s
    have hlt := length_rest_stringBody hrest
    exact ⟨Nat.le_refl _, by omega, Nat.le_of_lt hlt⟩
  | case5 c s hquote hescape body ih =>
    obtain ⟨hstart, hgoes, hstops⟩ := ih hrest hbad
    exact ⟨Nat.le_succ_of_le hstart, hgoes, hstops⟩

theorem string_located (s : List Char) : Located s (string s) := by
  unfold string
  dsimp only
  split
  · exact located_issue _ _ _ List.nil_suffix
  · rename_i rest start stop hrest hbad
    rintro _ ⟨⟩
    obtain ⟨hstart, hgoes, hstops⟩ := badEscape_within hrest hbad
    exact ⟨Nat.le_trans hstart (List.drop_suffix 1 s).length_le, hgoes, hstops⟩
  · exact located_ok _

theorem rawString_located (s : List Char) : Located s (rawString s) := by
  unfold rawString
  split
  · exact located_ok _
  · exact located_issue _ _ _ List.nil_suffix

theorem timestamp_located (s : List Char) : Located s (timestamp s) := by
  unfold timestamp
  dsimp only
  split
  · exact located_issue _ _ _ List.nil_suffix
  · rename_i rest hrest
    have hsuffix : rest <:+ s :=
      ((List.suffix_cons _ rest).trans (hrest ▸ List.dropWhile_suffix _)).trans (List.drop_suffix 2 s)
    split
    · exact located_ok _
    · exact located_issue _ _ _ hsuffix

theorem index_located (s : List Char) : Located s (index s) := by
  unfold index
  dsimp only
  split
  · rename_i rest hrest
    have hsuffix : rest <:+ s := (List.suffix_cons _ rest).trans (hrest ▸ List.drop_suffix _ s)
    split
    · exact located_ok _
    · exact located_issue _ _ _ hsuffix
  · exact located_issue _ _ _ (List.drop_suffix _ s)

theorem keyOrString_located (s : List Char) : Located s (keyOrString s) := by
  unfold keyOrString
  split
  · exact string_located _
  · exact located_ok _

theorem segment_located {o : Outcome Segment} (h : segment? s = some o) : Located s o := by
  unfold segment? at h
  split at h
  · obtain rfl := Option.some.inj h
    exact ((keyOrString_located _).of_suffix (List.drop_suffix 1 s)).map _
  · split at h
    · obtain rfl := Option.some.inj h
      exact (index_located s).map _
    · cases h

theorem segments_located (fuel : Nat) (s : List Char) : Located s (segments fuel s) := by
  induction fuel generalizing s with
  | zero => exact located_ok _
  | succ fuel ih =>
    unfold segments
    split
    · exact located_ok _
    · rename_i e rest h
      rintro _ ⟨⟩
      exact segment_located h e rfl
    · rename_i segment rest h
      exact ((ih rest).of_suffix (segment_suffix h)).map _

theorem path_located (s : List Char) : Located s (path s) := by
  unfold path
  split
  · exact (segments_located _ s).map _
  · exact located_ok _

theorem number_located (s : List Char) : Located s (number s) := by
  unfold number
  dsimp only
  split
  · exact located_issue _ _ _ ((List.drop_suffix _ _).trans (List.drop_suffix _ s))
  · split
    · split
      · exact located_ok _
      · exact located_issue _ _ _ (List.drop_suffix _ s)
    · split
      · exact located_ok _
      · exact located_issue _ _ _ (List.drop_suffix _ s)

theorem symbol_located (s : List Char) : Located s (symbol s) := by
  unfold symbol
  split
  · exact located_ok _
  · exact located_issue _ _ _ (List.drop_suffix 1 s)

theorem token_located (before : Before) (s : List Char) : Located s (token before s) := by
  unfold token
  split
  · exact path_located _
  · exact (string_located _).map _
  · exact rawString_located _
  · exact timestamp_located _
  · split
    · exact number_located _
    · exact symbol_located _
  · split
    · exact located_ok _
    · exact symbol_located _
  · split
    · exact number_located _
    · split
      · exact located_ok _
      · exact symbol_located _
  · exact located_ok _

end Scan

namespace Lexer

/-! ### Lexemes and their diagnostics -/

/-- A lexeme of a program: a token that is not invalid, or an invalid one with a diagnostic about a piece of it. -/
inductive Told (source : List Char) : Lexeme → Prop
  | valid {t} : t.kind ≠ .invalid → Told source ⟨t, none⟩
  | invalid {t d front lead text tail back} : t.kind = .invalid → source = front ++ (lead ++ text ++ tail) ++ back →
      t.span = .ofText front (lead ++ text ++ tail) → d.span = some (.ofText (front ++ lead) text) →
      Told source ⟨t, some d⟩

theorem exists_pieces (text : List Char) {m n : Nat} (hm : m ≤ n) (hn : n ≤ text.length) :
    ∃ a b c, text = a ++ b ++ c ∧ a.length = m ∧ (a ++ b).length = n := by
  have hcut : text.take m ++ (text.take n).drop m = text.take n := by
    have htake : (text.take n).take m = text.take m := by rw [List.take_take, Nat.min_eq_left hm]
    rw [← htake, List.take_append_drop]
  refine ⟨text.take m, (text.take n).drop m, text.drop n, ?_, ?_, ?_⟩
  · rw [hcut, List.take_append_drop]
  · rw [List.length_take]
    omega
  · rw [hcut, List.length_take]
    omega

/-- An invalid token with the text that is wrong in it. -/
theorem told_of_within (front : List Char) {s rest : List Char} {e : Issue} (he : e.Within s rest) (hrest : rest <:+ s) :
    Told (front ++ s)
      ⟨tokenOf .invalid (Mark.origin.past front) s rest, some (diagnosticOf (Mark.origin.past front) s e)⟩ := by
  obtain ⟨hstarts, hgoes, hstops⟩ := he
  obtain ⟨written, rfl⟩ := hrest
  rw [List.length_append] at hstarts
  have hfirst : written.length + rest.length - e.leftAtStart ≤ written.length + rest.length - e.leftAtStop := by omega
  have hsecond : written.length + rest.length - e.leftAtStop ≤ written.length := by omega
  obtain ⟨lead, text, tail, rfl, hlead, htext⟩ := exists_pieces written hfirst hsecond
  have htake : (lead ++ text ++ tail ++ rest).take ((lead ++ text ++ tail ++ rest).length - e.leftAtStart) = lead := by
    rw [List.append_assoc, List.append_assoc]
    exact List.take_left' (by rw [hlead]; simp only [List.length_append]; omega)
  have htake' : (lead ++ text ++ tail ++ rest).take ((lead ++ text ++ tail ++ rest).length - e.leftAtStop) =
      lead ++ text := by
    rw [List.append_assoc]
    exact List.take_left' (by rw [htext]; simp only [List.length_append]; omega)
  refine @Told.invalid _ _ _ front lead text tail rest rfl (List.append_assoc ..).symm ?_ ?_
  · rw [tokenOf, between_left, Mark.spanTo_past]
  · rw [diagnosticOf, htake, htake', Mark.past_append, ← Mark.past_append, Mark.spanTo_past]

theorem told_run (last : Option Token) (front s : List Char) :
    ∀ l ∈ run last (Mark.origin.past front) s, Told (front ++ s) l := by
  generalize hm : Mark.origin.past front = m
  fun_induction run last m s generalizing front with
  | case1 => exact List.forall_mem_singleton.2 (.valid (by simp [tokenOf]))
  | case2 last m s trimmed m' c rest htrim hc ih =>
    subst hm
    have htold := ih (front ++ between s (skipTrivia s) ++ [c]) (by
      rw [Mark.past_append, Mark.past_append]
      rfl)
    have hs : front ++ between s (skipTrivia s) ++ [c] ++ rest = front ++ s := by
      rw [List.append_assoc _ [c], List.singleton_append, ← show skipTrivia s = c :: rest from htrim,
        List.append_assoc, between_append_self (skipTrivia_suffix s)]
    rwa [hs] at htold
  | case3 last m s trimmed m' c rest htrim hc kind rest' ht tok ih =>
    subst hm
    have hrest : rest' <:+ c :: rest := suffix_of_scan ht
    have htold := ih (front ++ between s (skipTrivia s) ++ between (c :: rest) rest') (by
      rw [Mark.past_append, Mark.past_append])
    have hs : front ++ between s (skipTrivia s) ++ between (c :: rest) rest' ++ rest' = front ++ s := by
      rw [List.append_assoc _ _ rest', between_append_self hrest, ← show skipTrivia s = c :: rest from htrim,
        List.append_assoc, between_append_self (skipTrivia_suffix s)]
    rw [hs] at htold
    have hvalid := (scans_of_token (List.cons_ne_nil c rest) ht).scanned.2.1
    exact List.forall_mem_cons.2 ⟨.valid hvalid, htold⟩
  | case4 last m s trimmed m' c rest htrim hc e rest' ht rest'' tok ih =>
    subst hm
    have hrest : rest' <:+ c :: rest := suffix_of_scan ht
    have hrecover : rest'' <:+ rest' := recover_suffix 0 rest'
    have htold := ih (front ++ between s (skipTrivia s) ++ between (c :: rest) rest'') (by
      rw [Mark.past_append, Mark.past_append])
    have hs : front ++ between s (skipTrivia s) ++ (c :: rest) = front ++ s := by
      rw [← show skipTrivia s = c :: rest from htrim, List.append_assoc, between_append_self (skipTrivia_suffix s)]
    have hs' : front ++ between s (skipTrivia s) ++ between (c :: rest) rest'' ++ rest'' = front ++ s := by
      rw [List.append_assoc _ _ rest'', between_append_self (hrecover.trans hrest), hs]
    rw [hs'] at htold
    -- what is given up with the token is behind the issue
    have hwithin : e.Within (c :: rest) rest'' := by
      obtain ⟨hstarts, hgoes, hstops⟩ := token_located (beforeAt last m') (c :: rest) e (by rw [ht])
      rw [ht] at hstops
      exact ⟨hstarts, hgoes, Nat.le_trans hrecover.length_le hstops⟩
    have hmark : m' = Mark.origin.past (front ++ between s (skipTrivia s)) := by rw [Mark.past_append]
    have hhead := told_of_within (front ++ between s (skipTrivia s)) hwithin (hrecover.trans hrest)
    rw [hs, ← hmark] at hhead
    exact List.forall_mem_cons.2 ⟨hhead, htold⟩

/-- The region of the diagnostic lies in that of the token. -/
theorem Told.inside {source : List Char} {l : Lexeme} (h : Told source l) :
    l.issue = none ∧ l.token.kind ≠ .invalid ∨
      ∃ d s, l.issue = some d ∧ l.token.kind = .invalid ∧ d.span = some s ∧ s.start ≤ s.stop ∧
        s.Inside l.token.span := by
  cases h with
  | valid hkind => exact .inl ⟨rfl, hkind⟩
  | @invalid t d front lead text tail back hkind hsource hspan hd =>
    refine .inr ⟨d, _, rfl, hkind, hd, ?_, ?_⟩
    · simp only [Span.ofText, Text.utf8Length_append]
      omega
    · rw [hspan]
      simp only [Span.Inside, Span.ofText, Text.utf8Length_append]
      omega

end Lexer

/-- Of two tokens that start at one place, one is empty or they are the same. -/
theorem InOrder.eq_of_start {ts : List Token} (h : InOrder ts) {t u : Token} (ht : t ∈ ts) (hu : u ∈ ts)
    (hstart : t.span.start = u.span.start) (htproper : t.span.start < t.span.stop)
    (huproper : u.span.start < u.span.stop) : t = u := by
  let Same (t u : Token) : Prop := t.span.start = u.span.start → t.span.start < t.span.stop →
    u.span.start < u.span.stop → t = u
  have hsymm : Std.Symm Same := ⟨fun t u h hs ht hu => (h hs.symm hu ht).symm⟩
  have hpairs : ts.Pairwise Same := h.apart.imp fun hapart hs ht _ => absurd hapart (by omega)
  exact hpairs.forall_of_forall (fun _ _ _ _ _ => rfl) ht hu hstart htproper huproper

/-- No region that the parser complains about is that of an invalid token. -/
theorem Sited.ne_invalid {ts : List Token} {s : Span} (h : Sited ts s) (hts : InOrder ts) {t : Token} (ht : t ∈ ts)
    (hkind : t.kind = .invalid) : s ≠ t.span := by
  rintro rfl
  have hproper := hts.proper t ht (by simp [hkind])
  generalize hs : t.span = s at h
  cases h with
  | @token u hu hvalid =>
    rw [hs] at hproper
    exact hvalid (hts.eq_of_start hu ht (by rw [hs]) hproper (hs ▸ hproper) ▸ hkind)
  | @run own s hown hinner hspans hhead =>
    obtain ⟨first, last, hfirst, -, hspan⟩ := hspans
    have hmem := List.mem_of_head? hfirst
    have hfirstProper := hts.proper first (hown.subset hmem) (hinner first hmem)
    have hstart : first.span.start = t.span.start := by rw [hs, hspan]
    exact hhead first hfirst (hts.eq_of_start (hown.subset hmem) ht hstart hfirstProper hproper ▸ hkind)

/-- The diagnostics of lexemes, beside those tokens that are invalid. -/
theorem forall₂_issues {R : Diagnostic → Token → Prop} {ls : List Lexeme}
    (h : ∀ l ∈ ls, l.issue = none ∧ l.token.kind ≠ .invalid ∨
      ∃ d, l.issue = some d ∧ l.token.kind = .invalid ∧ R d l.token) :
    List.Forall₂ R (ls.filterMap (·.issue)) ((ls.map (·.token)).filter (·.kind == .invalid)) := by
  induction ls with
  | nil => exact .nil
  | cons l ls ih =>
    obtain ⟨hl, hls⟩ := List.forall_mem_cons.1 h
    rw [List.filterMap_cons, List.map_cons, List.filter_cons]
    rcases hl with ⟨hissue, hkind⟩ | ⟨d, hissue, hkind, hd⟩
    · rw [hissue, if_neg (by simpa using hkind)]
      exact ih hls
    · rw [hissue, if_pos (by simpa using hkind)]
      exact .cons hd (ih hls)

/-- The invalid tokens of a program are reported by one diagnostic each, in their order, that lies in the token; and
no diagnostic that the parser records is about one, whether it comes to the end or not. -/
theorem reports_once (source : String) :
    List.Forall₂ (fun d t => ∃ s, d.span = some s ∧ s.start ≤ s.stop ∧ s.Inside t.span) (tokenize source).2
        ((tokenize source).1.filter (·.kind == .invalid)) ∧
      (∀ d ∈ Expr.recorded (tokenize source).1, ∀ t ∈ (tokenize source).1, t.kind = .invalid →
        d.span ≠ some t.span) ∧
      ∀ es ds, Expr.parse (tokenize source).1 = .ok (es, ds) → Expr.recorded (tokenize source).1 = ds := by
  have horder : InOrder (tokenize source).1 := (Lexer.tiling_run source.toList).inOrder
  refine ⟨forall₂_issues fun l hl => ?_, fun d hd t ht hkind hspan => ?_, fun es ds => Expr.recorded_of_parse⟩
  · have htold := Lexer.told_run none [] source.toList l hl
    rcases htold.inside with hvalid | ⟨d, s, hissue, hkind, hspan, hproper, hinside⟩
    · exact .inl hvalid
    · exact .inr ⟨d, hissue, hkind, s, hspan, hproper, hinside⟩
  · have hstart := start_tokenize source
    obtain ⟨s, hs, hsited⟩ := Expr.sited_of_recorded (hstart.symm ▸ horder) d hd
    rw [hstart] at hsited
    exact hsited.ne_invalid horder ht hkind (Option.some.inj (hs.symm.trans hspan))

end Reshape
