/-
Scanners on a longer text.

No token goes past a line break or a blank except one in quotes, so a scanner that finds what it looks for finds the
same when such a character and any other text follow: its outcome is `extend`ed by that text, which the issues
count among the characters left.  The same holds before a minus, unless an index or an exponent is only begun.

* `Scan.skipTrivia_append` — blanks and comments end at the line break;
* `Scan.token_append` — so does every token, unless it is a string that is never closed;
* `Scan.scans_of_token` — the scanners and what each of them gives;
* `Scan.token_kind` — no scanner gives the end of a program or an invalid token;
* `Scan.token_suffix` — what a scanner leaves is the end of its text.
-/
import Mathlib.Data.List.Basic
import Reshape.Token.Lexer

namespace Reshape

/-- The same issue in a text with more characters behind it. -/
def Issue.extend (more : List Char) (e : Issue) : Issue :=
  { e with leftAtStart := e.leftAtStart + more.length, leftAtStop := e.leftAtStop + more.length }

namespace Scan

/-- The same outcome in a text with more characters behind it. -/
def extend {α : Type} (more : List Char) (o : Outcome α) : Outcome α :=
  (o.1.mapError (·.extend more), o.2 ++ more)

/-- The scanner looked for a closing quote up to the end of the text. -/
def Unclosed {α : Type} (o : Outcome α) : Prop :=
  ∃ e, o.1 = .error e ∧ e.code = .unterminatedString

variable {α β : Type} (t : List Char)

@[simp] theorem extend_ok (more rest : List Char) (a : α) :
    extend more ((.ok a, rest) : Outcome α) = (.ok a, rest ++ more) := rfl

@[simp] theorem extend_error (more rest : List Char) (e : Issue) :
    extend more ((.error e, rest) : Outcome α) = (.error (e.extend more), rest ++ more) := rfl

theorem extend_map (more : List Char) (f : α → β) (o : Outcome α) :
    extend more (o.1.map f, o.2) = ((extend more o).1.map f, (extend more o).2) := by
  rcases o with ⟨e | a, rest⟩
  · rfl
  · rfl

theorem unclosed_map {f : α → β} {o : Outcome α} :
    Unclosed ((o.1.map f, o.2) : Outcome β) ↔ Unclosed o := by
  rcases o with ⟨e | a, rest⟩
  · simp [Unclosed, Except.map]
  · simp [Unclosed, Except.map]

theorem extend_issue (code : Code) (message label : String) (start stop more : List Char) :
    (issue code message label start stop).extend more =
      issue code message label (start ++ more) (stop ++ more) := by
  simp [Issue.extend, issue]

/-! ### Text behind -/

/-- The first character of a text, whose end counts as a blank. -/
def next (s : List Char) : Char :=
  s.headD ' '

/-- Text that starts with a line break, a blank or a minus. -/
inductive Apart : List Char → Prop
  | newline (t : List Char) : Apart ('\n' :: t)
  | blank (t : List Char) : Apart (' ' :: t)
  | minus (t : List Char) : Apart ('-' :: t)

/-- The outcome is the same with the text behind.  A minus would go on with an index of which there is only the bracket,
or with an exponent in what is no number without it. -/
structure Stands {α : Type} (more : List Char) (o : Outcome α) : Prop where
  closed : ¬Unclosed o
  complete : next more = '-' → (∃ a, o.1 = .ok a) ∧ o.2 ≠ ['[']

section Apart

variable {more : List Char}

theorem Apart.stops (hmore : Apart more) {p : Char → Bool} (hp : p '\n' = false ∧ p ' ' = false ∧ p '-' = false) :
    p (next more) = false := by
  cases hmore with
  | newline t => exact hp.1
  | blank t => exact hp.2.1
  | minus t => exact hp.2.2

theorem next_newline_ne (t : List Char) : next ('\n' :: t) ≠ '-' := by
  show '\n' ≠ '-'
  decide

theorem stands_newline (t : List Char) {o : Outcome α} (h : ¬Unclosed o) : Stands ('\n' :: t) o :=
  ⟨h, fun hminus => absurd hminus (next_newline_ne t)⟩

theorem stands_ok {a : α} {rest : List Char} (h : next more = '-' → rest ≠ ['[']) :
    Stands more ((.ok a, rest) : Outcome α) := by
  refine ⟨?_, fun hm => ⟨⟨a, rfl⟩, h hm⟩⟩
  rintro ⟨e, he, -⟩
  cases he

theorem stands_map {f : α → β} {o : Outcome α} : Stands more ((o.1.map f, o.2) : Outcome β) ↔ Stands more o := by
  have hok : (∃ b, o.1.map f = .ok b) ↔ ∃ a, o.1 = .ok a := by
    rcases o with ⟨e | a, rest⟩
    · simp [Except.map]
    · simp [Except.map]
  constructor
  · intro h
    exact ⟨fun hu => h.closed (unclosed_map.2 hu), fun hm => ⟨hok.1 (h.complete hm).1, (h.complete hm).2⟩⟩
  · intro h
    exact ⟨fun hu => h.closed (unclosed_map.1 hu), fun hm => ⟨hok.2 (h.complete hm).1, (h.complete hm).2⟩⟩

end Apart

/-! ### Runs of characters -/

section Runs

variable {p : Char → Bool}

theorem takeWhile_append (more : List Char) (hp : p (next more) = false) (s : List Char) :
    (s ++ more).takeWhile p = s.takeWhile p := by
  induction s with
  | nil =>
    cases more with
    | nil => rfl
    | cons d t => exact List.takeWhile_cons_of_neg (by simpa [next] using hp)
  | cons c s ih => simp only [List.cons_append, List.takeWhile_cons, ih]

theorem dropWhile_append (more : List Char) (hp : p (next more) = false) (s : List Char) :
    (s ++ more).dropWhile p = s.dropWhile p ++ more := by
  induction s with
  | nil =>
    cases more with
    | nil => rfl
    | cons d t => exact List.dropWhile_cons_of_neg (by simpa [next] using hp)
  | cons c s ih =>
    simp only [List.cons_append, List.dropWhile_cons, ih]
    split
    · rfl
    · rfl

/-- A run that ends before the text does. -/
theorem dropWhile_append_of_cons (more : List Char) {s rest : List Char} {c : Char} (h : s.dropWhile p = c :: rest) :
    (s ++ more).dropWhile p = c :: (rest ++ more) ∧ (s ++ more).takeWhile p = s.takeWhile p := by
  induction s with
  | nil => simp at h
  | cons d s ih =>
    rw [List.dropWhile_cons] at h
    simp only [List.cons_append, List.dropWhile_cons, List.takeWhile_cons]
    split at h
    · rename_i hd
      simpa only [hd, if_true, List.cons.injEq, true_and] using ih h
    · rename_i hd
      obtain ⟨rfl, rfl⟩ := List.cons.inj h
      simp [hd]

theorem length_takeWhile_le (s : List Char) : (s.takeWhile p).length ≤ s.length :=
  (List.takeWhile_sublist p).length_le

end Runs

/-! ### Blanks and comments -/

theorem skipTrivia_nil : skipTrivia [] = [] := by
  rw [skipTrivia]

theorem skipTrivia_newline : skipTrivia ('\n' :: t) = '\n' :: t := by
  rw [skipTrivia]
  simp [isSpace]

theorem skipTrivia_append (s : List Char) : skipTrivia (s ++ '\n' :: t) = skipTrivia s ++ '\n' :: t := by
  fun_induction skipTrivia s with
  | case1 => exact skipTrivia_newline t
  | case2 c rest hc ih => rw [List.cons_append, skipTrivia, if_pos hc, ih]
  | case3 rest hc ih =>
    rw [List.cons_append, skipTrivia, if_neg hc, if_pos rfl, dropWhile_append ('\n' :: t) rfl, ih]
  | case4 c rest hc hd => rw [List.cons_append, skipTrivia, if_neg hc, if_neg hd]

/-! ### Strings -/

/-- A text in which a run ends, or that is long enough. -/
theorem takeWhile_take_append (more : List Char) {p : Char → Bool} {n : Nat} {s : List Char}
    (h : ((s.take n).takeWhile p).length < s.length) : ((s ++ more).take n).takeWhile p = (s.take n).takeWhile p := by
  by_cases hn : n ≤ s.length
  · rw [List.take_append_of_le_length hn]
  · have hself : s.take n = s := List.take_of_length_le (by omega)
    rw [hself] at h ⊢
    rw [List.take_append, hself]
    cases hdrop : s.dropWhile p with
    | nil =>
      have hall := List.takeWhile_append_dropWhile (p := p) (l := s)
      rw [hdrop, List.append_nil] at hall
      rw [hall] at h
      exact absurd h (Nat.lt_irrefl _)
    | cons c rest => exact (dropWhile_append_of_cons _ hdrop).2

theorem braced_append (more hex : List Char) {s : List Char} (hs : s ≠ []) :
    braced hex (s ++ more) = ((braced hex s).1, (braced hex s).2 ++ more) := by
  obtain ⟨c, s, rfl⟩ := List.exists_cons_of_ne_nil hs
  by_cases hc : c = '\x7d'
  · subst hc
    rfl
  · simp [braced, hc]

/-- An escape that ends before the text does is the same with more behind. -/
theorem codePoint_append (more : List Char) {s : List Char} (h : (codePoint s).2 ≠ []) :
    codePoint (s ++ more) = ((codePoint s).1, (codePoint s).2 ++ more) := by
  rcases s with _ | ⟨c, s⟩
  · exact absurd rfl h
  · by_cases hc : c = '\x7b'
    · subst hc
      have hrest : s.drop ((s.take 7).takeWhile isHexDigit).length ≠ [] := by
        intro hnil
        exact h (by simp [codePoint, hnil, braced])
      have hlt : ((s.take 7).takeWhile isHexDigit).length < s.length := by
        rw [Ne, List.drop_eq_nil_iff] at hrest
        omega
      rw [List.cons_append, codePoint, codePoint, takeWhile_take_append more hlt,
        List.drop_append_of_le_length (Nat.le_of_lt hlt), braced_append more _ hrest]
    · simp [codePoint, hc]

theorem escape_append (more : List Char) {s : List Char} (h : (escape s).2 ≠ []) :
    escape (s ++ more) = ((escape s).1, (escape s).2 ++ more) := by
  rcases s with _ | ⟨c, s⟩
  · exact absurd rfl h
  · rw [List.cons_append]
    unfold escape at h ⊢
    dsimp only at h ⊢
    split
    all_goals first | rfl | exact codePoint_append more h

/-- A string that is closed, whatever stands behind it. -/
theorem stringBody_append (more s : List Char) {rest : List Char} (h : (stringBody s).rest = some rest) :
    stringBody (s ++ more) =
      ⟨(stringBody s).text, (stringBody s).badEscape.map fun p => (p.1 + more.length, p.2 + more.length),
        some (rest ++ more)⟩ := by
  -- an escape may take several characters, so the induction is on the length
  induction hn : s.length using Nat.strongRecOn generalizing s rest with
  | _ n ih =>
    rcases s with _ | ⟨c, s⟩
    · simp [stringBody] at h
    · simp only [List.length_cons] at hn
      rw [stringBody] at h
      rw [List.cons_append, stringBody, stringBody]
      split at h
      · rename_i hc
        obtain rfl := Option.some.inj h
        simp [hc]
      · rename_i hc
        rw [if_neg hc, if_neg hc]
        split at h
        · -- an escape; whether it is valid decides what becomes of it, not where it ends
          rename_i hd
          have hlen := length_escape_le s
          have hbody : (stringBody (escape s).2).rest = some rest := by
            cases hvalid : (escape s).1 <;> simpa [hvalid] using h
          have hopen : (escape s).2 ≠ [] := by
            intro hnil
            simp [hnil, stringBody] at hbody
          rw [if_pos hd, if_pos hd, escape_append more hopen]
          cases hvalid : (escape s).1 with
          | none =>
            simp only [ih _ (by omega) (escape s).2 hbody rfl, List.length_append, Option.map_some]
            simp [Nat.add_right_comm]
          | some decoded => simp only [ih _ (by omega) (escape s).2 hbody rfl]
        · rename_i hd
          rw [if_neg hd, if_neg hd]
          simp only [ih _ (by omega) s h rfl]

theorem string_append (more : List Char) {s : List Char} (hs : s ≠ []) (h : ¬Unclosed (string s)) :
    string (s ++ more) = extend more (string s) := by
  obtain ⟨c, s, rfl⟩ := List.exists_cons_of_ne_nil hs
  unfold string at h ⊢
  simp only [List.cons_append, List.drop_succ_cons, List.drop_zero] at h ⊢
  cases hrest : (stringBody s).rest with
  | none => simp [hrest, Unclosed, issue] at h
  | some rest =>
    rw [stringBody_append more s hrest]
    cases hbad : (stringBody s).badEscape with
    | none => simp
    | some bad => simp [Issue.extend]

theorem rawBody_append (more : List Char) {s text rest : List Char} (h : rawBody s = some (text, rest)) :
    rawBody (s ++ more) = some (text, rest ++ more) := by
  fun_induction rawBody s generalizing text with
  | case1 => simp at h
  | case2 s =>
    obtain ⟨rfl, rfl⟩ : [] = text ∧ s = rest := by simpa using h
    rfl
  | case3 s ih =>
    obtain ⟨⟨text', rest'⟩, hbody, heq⟩ := Option.map_eq_some_iff.1 h
    obtain ⟨rfl, rfl⟩ := Prod.mk.inj heq
    simp [rawBody, ih hbody]
  | case4 c s hquote hescape ih =>
    obtain ⟨⟨text', rest'⟩, hbody, heq⟩ := Option.map_eq_some_iff.1 h
    obtain ⟨rfl, rfl⟩ := Prod.mk.inj heq
    rw [List.cons_append, rawBody, ih hbody]
    · rfl
    · exact hquote
    · -- a backslash is not the last character of what is closed
      rintro rest rfl hs
      rcases s with _ | ⟨d, s⟩
      · simp [rawBody] at hbody
      · simp only [List.cons_append, List.cons.injEq] at hs
        exact hescape s rfl (by rw [hs.1])

theorem rawString_append (more : List Char) {c d : Char} {s : List Char} (h : ¬Unclosed (rawString (c :: d :: s))) :
    rawString (c :: d :: (s ++ more)) = extend more (rawString (c :: d :: s)) := by
  unfold rawString at h ⊢
  simp only [List.drop_succ_cons, List.drop_zero] at h ⊢
  cases hbody : rawBody s with
  | none => simp [hbody, Unclosed, issue] at h
  | some body =>
    rw [rawBody_append more hbody]
    rfl

theorem timestamp_append (more : List Char) {c d : Char} {s : List Char} (h : ¬Unclosed (timestamp (c :: d :: s))) :
    timestamp (c :: d :: (s ++ more)) = extend more (timestamp (c :: d :: s)) := by
  unfold timestamp at h ⊢
  simp only [List.drop_succ_cons, List.drop_zero] at h ⊢
  cases hrun : s.dropWhile (· != '\'') with
  | nil => simp [hrun, Unclosed, issue] at h
  | cons q rest =>
    obtain ⟨hdrop, htake⟩ := dropWhile_append_of_cons more hrun
    rw [hdrop, htake]
    cases Timestamp.ofInternet (s.takeWhile (· != '\'')) with
    | ok v => rfl
    | error problem => simp only [extend_error, extend_issue, List.cons_append]

/-! ### Paths -/

section Paths

variable {more : List Char} (hmore : Apart more)

include hmore

theorem startsKey_append (s : List Char) : startsKey (s ++ more) = startsKey s := by
  rcases s with _ | ⟨c, s⟩
  · cases hmore with
    | newline t => rfl
    | blank t => rfl
    | minus t => rfl
  · by_cases hc : c = '.'
    · subst hc
      rcases s with _ | ⟨d, s⟩
      · cases hmore with
        | newline t => rfl
        | blank t => rfl
        | minus t => rfl
      · rfl
    · simp [startsKey, hc]

theorem startsIndex_append {s : List Char} (hs : next more = '-' → s ≠ ['[']) :
    startsIndex (s ++ more) = startsIndex s := by
  rcases s with _ | ⟨c, s⟩
  · cases hmore with
    | newline t => rfl
    | blank t => rfl
    | minus t => rfl
  · by_cases hc : c = '['
    · subst hc
      rcases s with _ | ⟨d, s⟩
      · cases hmore with
        | newline t => rfl
        | blank t => rfl
        | minus t => exact absurd rfl (hs rfl)
      · by_cases hd : d = '-'
        · subst hd
          rcases s with _ | ⟨e, s⟩
          · cases hmore with
            | newline t => rfl
            | blank t => rfl
            | minus t => rfl
          · rfl
        · simp [startsIndex, hd]
    · simp [startsIndex, hc]

omit hmore in
theorem exists_of_startsIndex {s : List Char} (h : startsIndex s = true) : ∃ c s', s = '[' :: c :: s' := by
  unfold startsIndex at h
  split at h
  · exact ⟨_, _, rfl⟩
  · exact ⟨_, _, rfl⟩
  · cases h

omit hmore in
theorem exists_of_startsKey {s : List Char} (h : startsKey s = true) : ∃ c s', s = '.' :: c :: s' := by
  unfold startsKey at h
  split at h
  · exact ⟨_, _, rfl⟩
  · cases h

omit hmore in
/-- The sign of an index is the first character behind its bracket, or there is none. -/
theorem indexSign_append {s : List Char} (hs : s ≠ []) :
    ((s ++ more).takeWhile (· == '-')).take 1 = (s.takeWhile (· == '-')).take 1 := by
  obtain ⟨c, s, rfl⟩ := List.exists_cons_of_ne_nil hs
  by_cases hc : c = '-'
  · simp [hc]
  · simp [hc]

theorem index_append {s : List Char} (hs : s ≠ []) :
    index ('[' :: (s ++ more)) = extend more (index ('[' :: s)) := by
  have hdigits : Char.isDigit (next more) = false := hmore.stops ⟨rfl, rfl, rfl⟩
  have hsignLen : ((s.takeWhile (· == '-')).take 1).length ≤ s.length :=
    Nat.le_trans (List.length_take_le' _ _) (length_takeWhile_le s)
  unfold index
  simp only [List.drop_succ_cons, List.drop_zero, indexSign_append hs, Nat.add_comm 1, Nat.add_right_comm _ 1]
  generalize (s.takeWhile (· == '-')).take 1 = sign at hsignLen
  rw [List.drop_append_of_le_length hsignLen, takeWhile_append more hdigits]
  have hdigitsLen : ((s.drop sign.length).takeWhile Char.isDigit).length ≤ (s.drop sign.length).length :=
    length_takeWhile_le _
  generalize (s.drop sign.length).takeWhile Char.isDigit = digits at hdigitsLen
  rw [List.drop_append_of_le_length (by simp only [List.length_drop] at hdigitsLen; omega)]
  rcases s.drop (sign.length + digits.length) with _ | ⟨c, rest⟩
  · cases hmore with
    | newline t => simp [extend_issue]
    | blank t => simp [extend_issue]
    | minus t => simp [extend_issue]
  · by_cases hc : c = ']'
    · subst hc
      cases int64? (sign ++ digits) with
      | some i => rfl
      | none => simp [extend_issue]
    · simp [hc, extend_issue]

omit hmore in
theorem length_index_lt (s : List Char) : (index ('[' :: s)).2.length < ('[' :: s).length := by
  unfold index
  simp only [List.drop_succ_cons, List.drop_zero, Nat.add_comm 1, Nat.add_right_comm _ 1]
  split
  · rename_i rest h
    have hlen := congrArg List.length h
    simp only [List.length_drop, List.length_cons] at hlen
    split
    · simp only [List.length_cons]
      omega
    · simp only [List.length_cons]
      omega
  · simp only [List.length_drop, List.length_cons]
    omega

theorem keyOrString_append {s : List Char} (hs : s ≠ []) (h : ¬Unclosed (keyOrString s)) :
    keyOrString (s ++ more) = extend more (keyOrString s) := by
  obtain ⟨c, s, rfl⟩ := List.exists_cons_of_ne_nil hs
  by_cases hc : c = '"'
  · subst hc
    exact string_append more hs h
  · have hkey : ∀ s, keyOrString (c :: s) = (.ok (key (c :: s)).1, (key (c :: s)).2) := by
      intro s
      simp [keyOrString, hc]
    have hstops : isKeyChar (next more) = false := hmore.stops ⟨rfl, rfl, rfl⟩
    rw [List.cons_append, hkey, hkey, extend_ok, ← List.cons_append]
    simp only [key]
    rw [takeWhile_append more hstops, dropWhile_append more hstops]

theorem segment?_append {s : List Char} (hs : next more = '-' → s ≠ ['['])
    (h : ∀ o, segment? s = some o → ¬Unclosed o) : segment? (s ++ more) = (segment? s).map (extend more) := by
  unfold segment? at h ⊢
  rw [startsKey_append hmore, startsIndex_append hmore hs]
  split
  · rename_i hkey
    obtain ⟨c, s', rfl⟩ := exists_of_startsKey hkey
    have hopen : ¬Unclosed (keyOrString (c :: s')) := by
      rw [if_pos hkey] at h
      exact fun hu => h _ rfl (unclosed_map.2 hu)
    simp only [List.cons_append, List.drop_succ_cons, List.drop_zero, Option.map_some]
    rw [extend_map, ← keyOrString_append hmore (by simp) hopen]
    rfl
  · split
    · rename_i hindex
      obtain ⟨c, s', rfl⟩ := exists_of_startsIndex hindex
      simp only [List.cons_append, Option.map_some]
      rw [extend_map, ← List.cons_append, ← index_append hmore (by simp)]
    · rfl

omit hmore in
theorem length_segment_lt {s : List Char} {o : Outcome Segment} (h : segment? s = some o) :
    o.2.length < s.length := by
  unfold segment? at h
  split at h
  · rename_i hkey
    obtain ⟨c, s', rfl⟩ := exists_of_startsKey hkey
    obtain rfl := Option.some.inj h
    exact Nat.lt_succ_of_le (length_keyOrString_le (c :: s'))
  · split at h
    · rename_i hindex
      obtain ⟨c, s', rfl⟩ := exists_of_startsIndex hindex
      obtain rfl := Option.some.inj h
      exact length_index_lt (c :: s')
    · cases h

omit hmore in
/-- A bracket alone starts no segment. -/
theorem ne_bracket_of_segment {s : List Char} {o : Outcome Segment} (h : segment? s = some o) : s ≠ ['['] := by
  rintro rfl
  cases h

/-- The segments of a path, whatever the fuel as long as it is enough. -/
theorem segments_append {fuel fuel' : Nat} {s : List Char} (hfuel : s.length ≤ fuel)
    (hfuel' : s.length < fuel') (h : Stands more (segments fuel s)) :
    segments fuel' (s ++ more) = extend more (segments fuel s) := by
  induction fuel generalizing fuel' s with
  | zero =>
    obtain rfl := List.length_eq_zero_iff.1 (Nat.le_zero.1 hfuel)
    obtain ⟨fuel', rfl⟩ : ∃ k, fuel' = k + 1 := ⟨fuel' - 1, by simp at hfuel'; omega⟩
    cases hmore with
    | newline t => rfl
    | blank t => rfl
    | minus t => rfl
  | succ fuel ih =>
    obtain ⟨fuel', rfl⟩ : ∃ k, fuel' = k + 1 := ⟨fuel' - 1, by omega⟩
    rw [segments] at h ⊢
    rw [segments]
    cases hseg : segment? s with
    | none =>
      rw [hseg] at h
      have hnone := segment?_append hmore (fun hm => (h.complete hm).2) (s := s) (by simp [hseg])
      rw [hnone, hseg]
      rfl
    | some o =>
      have hlen := length_segment_lt hseg
      have hbracket : next more = '-' → s ≠ ['['] := fun _ => ne_bracket_of_segment hseg
      obtain ⟨e | segment, rest⟩ := o
      · -- a segment that is in error ends the path
        have hopen : ∀ o, segment? s = some o → ¬Unclosed o := by
          rw [hseg] at h ⊢
          rintro o ⟨⟩
          simpa [Unclosed] using h.closed
        rw [segment?_append hmore hbracket hopen, hseg]
        rfl
      · rw [hseg] at h
        dsimp only at h hlen
        have hfuel : rest.length < fuel' := by omega
        have hrest := ih (s := rest) (by omega) hfuel (stands_map.1 h)
        rw [segment?_append hmore hbracket (by simp [hseg, Unclosed]), hseg]
        simp only [Option.map_some, extend_ok]
        rw [hrest, extend_map]

theorem path_append {c : Char} {s : List Char} (h : Stands more (path (c :: s))) :
    path (c :: (s ++ more)) = extend more (path (c :: s)) := by
  unfold path at h ⊢
  rw [← List.cons_append, startsKey_append hmore]
  have hpos : 0 < more.length := by
    cases hmore with
    | newline t => simp
    | blank t => simp
    | minus t => simp
  split
  · rename_i hkey
    rw [if_pos hkey, stands_map] at h
    rw [segments_append hmore (Nat.le_refl _) (by rw [List.length_append]; omega) h, extend_map]
  · rfl

end Paths

/-! ### Numbers -/

theorem length_wholePart_le (s : List Char) : (wholePart s).length ≤ s.length := by
  unfold wholePart
  split
  · simp
  · rename_i c s
    split
    · simpa using length_takeWhile_le s
    · exact length_takeWhile_le (c :: s)

theorem length_fractionPart_le (s : List Char) : (fractionPart s).length ≤ s.length := by
  unfold fractionPart
  split
  · rename_i s
    split
    · simpa using length_takeWhile_le s
    · simp
  · simp

theorem length_exponentPart_le (s : List Char) : (exponentPart s).length ≤ s.length := by
  rcases s with _ | ⟨mark, _ | ⟨c, s⟩⟩
  · simp [exponentPart]
  · simp [exponentPart, startsWithDigit]
  · rw [exponentPart]
    split
    · -- a sign and then digits
      simp only [List.length_singleton, List.drop_succ_cons, List.drop_zero]
      split
      · simpa using length_takeWhile_le s
      · simp
    · simp only [List.length_nil, List.drop_zero]
      split
      · simpa using length_takeWhile_le (c :: s)
      · simp

section Parts

variable {more : List Char} (hmore : Apart more)

include hmore

theorem startsWithDigit_append (s : List Char) : startsWithDigit (s ++ more) = startsWithDigit s := by
  cases s with
  | nil =>
    cases hmore with
    | newline t => rfl
    | blank t => rfl
    | minus t => rfl
  | cons c s => rfl

theorem wholePart_append {s : List Char} (hs : s ≠ []) : wholePart (s ++ more) = wholePart s := by
  obtain ⟨c, s, rfl⟩ := List.exists_cons_of_ne_nil hs
  have hstops : isNumberChar (next more) = false := hmore.stops ⟨rfl, rfl, rfl⟩
  rw [List.cons_append, wholePart, wholePart, takeWhile_append more hstops, ← List.cons_append,
    takeWhile_append more hstops]

theorem fractionPart_append (s : List Char) : fractionPart (s ++ more) = fractionPart s := by
  rcases s with _ | ⟨c, s⟩
  · cases hmore with
    | newline t => rfl
    | blank t => rfl
    | minus t => rfl
  · by_cases hc : c = '.'
    · subst hc
      rw [List.cons_append, fractionPart, fractionPart, startsWithDigit_append hmore,
        takeWhile_append more (hmore.stops ⟨rfl, rfl, rfl⟩)]
    · simp [fractionPart, hc]

/-- An exponent that is only begun would go on with a minus; but its mark is a character of keys. -/
theorem exponentPart_append {s : List Char}
    (h : next more = '-' → (s.drop (exponentPart s).length).takeWhile isKeyChar = []) :
    exponentPart (s ++ more) = exponentPart s := by
  have hstops : isNumberChar (next more) = false := hmore.stops ⟨rfl, rfl, rfl⟩
  rcases s with _ | ⟨mark, s⟩
  · cases hmore with
    | newline t => simp [exponentPart]
    | blank t => simp [exponentPart]
    | minus t => simp [exponentPart]
  · rcases s with _ | ⟨c, s⟩
    · cases hmore with
      | newline t => simp [exponentPart, startsWithDigit]
      | blank t => simp [exponentPart, startsWithDigit]
      | minus t =>
        have hmark : isKeyChar mark = false := by
          have hnone : [mark].takeWhile isKeyChar = [] := by simpa [exponentPart, startsWithDigit] using h rfl
          by_contra hkey
          simp [List.takeWhile_cons, hkey] at hnone
        have hne : mark ≠ 'e' ∧ mark ≠ 'E' := by
          constructor
          · rintro rfl
            cases hmark
          · rintro rfl
            cases hmark
        simp [exponentPart, hne.1, hne.2]
    · rw [List.cons_append, List.cons_append, exponentPart, exponentPart]
      split
      · simp only [List.length_singleton, List.drop_succ_cons, List.drop_zero, startsWithDigit_append hmore]
        rw [takeWhile_append more hstops]
      · simp only [List.length_nil, List.drop_zero]
        rw [← List.cons_append, startsWithDigit_append hmore, takeWhile_append more hstops]

/-- A number is followed by no character of keys. -/
theorem number_append {s : List Char} (hs : s ≠ []) (h : next more = '-' → ∃ kind, (number s).1 = .ok kind) :
    number (s ++ more) = extend more (number s) := by
  have hjunk : next more = '-' →
      (s.drop (wholePart s ++ fractionPart (s.drop (wholePart s).length) ++ exponentPart (s.drop
        ((wholePart s).length + (fractionPart (s.drop (wholePart s).length)).length))).length).takeWhile
          isKeyChar = [] := by
    intro hm
    obtain ⟨kind, hkind⟩ := h hm
    unfold number at hkind
    dsimp only at hkind
    split at hkind
    · cases hkind
    · rename_i hempty
      simpa using hempty
  unfold number
  dsimp only
  -- part by part, each with the length that the next one starts at
  rw [wholePart_append hmore hs]
  have hwhole := length_wholePart_le s
  generalize wholePart s = whole at hwhole hjunk ⊢
  rw [List.drop_append_of_le_length hwhole, fractionPart_append hmore]
  have hfraction := length_fractionPart_le (s.drop whole.length)
  generalize fractionPart (s.drop whole.length) = fraction at hfraction hjunk ⊢
  simp only [List.length_drop] at hfraction
  have hdrop : (s ++ more).drop (whole.length + fraction.length) = s.drop (whole.length + fraction.length) ++ more :=
    List.drop_append_of_le_length (by omega)
  have hbegun : next more = '-' →
      ((s.drop (whole.length + fraction.length)).drop
        (exponentPart (s.drop (whole.length + fraction.length))).length).takeWhile isKeyChar = [] := by
    simpa only [List.drop_drop, List.length_append] using hjunk
  rw [hdrop, exponentPart_append hmore hbegun]
  have hexponent := length_exponentPart_le (s.drop (whole.length + fraction.length))
  generalize exponentPart (s.drop (whole.length + fraction.length)) = exponent at hexponent ⊢
  simp only [List.length_drop] at hexponent
  have hwritten : (whole ++ fraction ++ exponent).length ≤ s.length := by
    simp only [List.length_append]
    omega
  generalize whole ++ fraction ++ exponent = written at hwritten ⊢
  rw [List.drop_append_of_le_length hwritten, takeWhile_append more (hmore.stops ⟨rfl, rfl, rfl⟩),
    List.drop_append_of_le_length (length_takeWhile_le _)]
  split
  · simp [extend_issue]
  · split
    · cases int64? (written.filter (· != '_')) with
      | some i => rfl
      | none => simp [extend_issue]
    · cases Float.read? (written.filter (· != '_')) with
      | some f => rfl
      | none => simp [extend_issue]

/-! ### Words and symbols -/

theorem word_append (s : List Char) : word (s ++ more) = extend more (word s) := by
  have hstops : isIdentChar (next more) = false := hmore.stops ⟨rfl, rfl, rfl⟩
  rw [word, takeWhile_append more hstops, dropWhile_append more hstops]
  rfl

end Parts

/-- The characters that symbols start with. -/
def symbolStarts : List Char :=
  ['=', '!', '<', '>', '&', '|', '+', '-', '*', '/', '%', '(', ')', '\x7b', '\x7d', '[', ']', ',', ':', ';',
    '\n']

theorem symbol?_eq_none {c : Char} (h : c ∉ symbolStarts) (s : List Char) : symbol? (c :: s) = none := by
  unfold symbol?
  split
  case h_26 => rfl
  all_goals
    rename_i heq
    injection heq with hc
    exact absurd (hc ▸ by decide) h

theorem symbol?_append {more : List Char} (hmore : Apart more) {s : List Char} (hs : s ≠ []) :
    symbol? (s ++ more) = symbol? s := by
  obtain ⟨c, s, rfl⟩ := List.exists_cons_of_ne_nil hs
  by_cases hc : c ∈ symbolStarts
  · simp only [symbolStarts, List.mem_cons, List.not_mem_nil, or_false] at hc
    rcases hc with rfl | rfl | rfl | rfl | rfl | rfl | rfl | rfl | rfl | rfl | rfl | rfl | rfl | rfl | rfl |
      rfl | rfl | rfl | rfl | rfl | rfl
    all_goals rcases s with _ | ⟨d, s⟩
    all_goals first
      | rfl
      | cases hmore <;> rfl
      -- a symbol that may be of two characters
      | by_cases hd : d = '='
        · subst hd
          rfl
        · simp [symbol?, hd]
      | by_cases hd : d = '&'
        · subst hd
          rfl
        · simp [symbol?, hd]
      | by_cases hd : d = '|'
        · subst hd
          rfl
        · simp [symbol?, hd]
  · rw [List.cons_append, symbol?_eq_none hc, symbol?_eq_none hc]

theorem symbol?_width_le {s : List Char} {kind : TokenKind} {width : Nat}
    (h : symbol? s = some (kind, width)) : width ≤ s.length := by
  unfold symbol? at h
  split at h <;> simp at h <;> simp <;> omega

theorem symbol_append {more : List Char} (hmore : Apart more) {s : List Char} (hs : s ≠ []) :
    symbol (s ++ more) = extend more (symbol s) := by
  unfold symbol
  rw [symbol?_append hmore hs]
  cases hsym : symbol? s with
  | none =>
    obtain ⟨c, s, rfl⟩ := List.exists_cons_of_ne_nil hs
    simp [extend_issue]
  | some p =>
    obtain ⟨kind, width⟩ := p
    simp [List.drop_append_of_le_length (symbol?_width_le hsym)]

/-! ### Tokens -/

/-- The scanner of a text that starts with no sign of its own for a path, a quote or an abort marker. -/
def plain (s : List Char) : Outcome TokenKind :=
  match s with
  | c :: _ => if c.isDigit then number s else if isIdentStart c then word s else symbol s
  | [] => (.ok .eof, [])

section Tokens

variable {more : List Char} (hmore : Apart more)

include hmore

theorem plain_append {s : List Char} (hs : s ≠ []) (h : Stands more (plain s)) :
    plain (s ++ more) = extend more (plain s) := by
  obtain ⟨c, s, rfl⟩ := List.exists_cons_of_ne_nil hs
  simp only [plain, List.cons_append] at h ⊢
  rw [← List.cons_append]
  split
  · rename_i hdigit
    rw [if_pos hdigit] at h
    exact number_append hmore hs fun hm => (h.complete hm).1
  · split
    · exact word_append hmore _
    · exact symbol_append hmore hs

theorem ne_cons_of_append {s rest : List Char} {q : Char} (hq : q ∉ ['\n', ' ', '-']) (hs : ∀ rest, s ≠ q :: rest) :
    s ++ more ≠ q :: rest := by
  intro h
  rcases s with _ | ⟨d, s⟩
  · cases hmore with
    | newline t => exact hq (by simp [← (List.cons.inj h).1])
    | blank t => exact hq (by simp [← (List.cons.inj h).1])
    | minus t => exact hq (by simp [← (List.cons.inj h).1])
  · exact hs s (by rw [(List.cons.inj h).1])

/-- A token is the same with other text behind, unless it is a string never closed or a minus may go on with it. -/
theorem token_append (before : Before) {s : List Char} (hs : s ≠ []) (h : Stands more (token before s)) :
    token before (s ++ more) = extend more (token before s) := by
  unfold token at h
  split at h
  · exact path_append hmore h
  · -- a string in double quotes may span lines, so it has to be closed before
    rename_i s
    have hopen : ¬Unclosed (string ('"' :: s)) := fun hu => h.closed (unclosed_map.2 hu)
    rw [token, extend_map, ← string_append more hs hopen]
    rfl
  · exact rawString_append more h.closed
  · exact timestamp_append more h.closed
  · simp only [token, List.cons_append]
    rw [← List.cons_append, ← List.cons_append]
    split
    · rename_i hdigit
      rw [if_pos hdigit] at h
      exact number_append hmore hs fun hm => (h.complete hm).1
    · exact symbol_append hmore hs
  · simp only [token, List.cons_append]
    split
    · rfl
    · exact symbol_append hmore hs
  · -- no sign of its own, and the text behind makes none
    rename_i c s hdot hquote hraw hstamp hminus hmark
    have hplain : token before (c :: s) = plain (c :: s) := by
      rw [token]
      · rfl
      all_goals assumption
    rw [hplain, ← plain_append hmore hs h, List.cons_append]
    by_cases hc : c = '-'
    · -- a minus that is the last character is one before no digit
      subst hc
      rcases s with _ | ⟨d, s⟩
      · cases hmore with
        | newline t => rfl
        | blank t => rfl
        | minus t => rfl
      · exact absurd rfl (hminus d s rfl)
    · rw [token]
      · rfl
      · exact hdot
      · exact hquote
      · exact fun rest hs' => ne_cons_of_append hmore (by decide) (hraw · hs')
      · exact fun rest hs' => ne_cons_of_append hmore (by decide) (hstamp · hs')
      · exact fun _ _ hc' => absurd hc' hc
      · exact fun rest hs' => ne_cons_of_append hmore (by decide) (hmark · hs')
  · exact absurd rfl hs

end Tokens

/-! ### What is scanned -/

/-- Where a number is scanned for. -/
inductive StartsNumber : List Char → Prop
  | digit {c s} : c.isDigit = true → StartsNumber (c :: s)
  | minus {c s} : c.isDigit = true → StartsNumber ('-' :: c :: s)

/-- The tokens that are scanned, each with what is known of its text. -/
inductive Scans : List Char → TokenKind → List Char → Prop
  | root {s rest} : Scans s (.path []) rest
  | path {s p rest} : startsKey s = true → segments s.length s = (.ok p, rest) → Scans s (.path p) rest
  | string {s text rest} : Scans s (.string text) rest
  | timestamp {s text t rest} : Timestamp.ofInternet text = .ok t → Scans s (.timestamp t) rest
  | integer {s i} : StartsNumber s → int64? ((wholePart s).filter (· != '_')) = some i →
      Scans s (.integer i) (s.drop (wholePart s).length)
  | float {s f rest} : StartsNumber s → Scans s (.float f) rest
  | abortMarker {s rest} : Scans s .abortMarker rest
  | word {c s} : isIdentStart c = true →
      Scans (c :: s) (wordKind (String.ofList ((c :: s).takeWhile isIdentChar))) ((c :: s).dropWhile isIdentChar)
  | symbol {s kind width} : symbol? s = some (kind, width) → Scans s kind (s.drop width)

section

variable {s rest : List Char} {kind : TokenKind}

theorem scans_of_path (h : path s = (.ok kind, rest)) : Scans s kind rest := by
  unfold path at h
  split at h
  · rename_i hs
    rcases hp : segments s.length s with ⟨e | p, left⟩
    · simp [hp, Except.map] at h
    · obtain ⟨rfl, rfl⟩ : TokenKind.path p = kind ∧ left = rest := by simpa [hp, Except.map] using h
      exact .path hs hp
  · obtain ⟨rfl, -⟩ : TokenKind.path [] = kind ∧ _ = rest := by simpa using h
    exact .root

theorem scans_of_string (h : ((string s).1.map .string, (string s).2) = (.ok kind, rest)) : Scans s kind rest := by
  rcases hs : string s with ⟨e | text, left⟩
  · simp [hs, Except.map] at h
  · obtain ⟨rfl, -⟩ : TokenKind.string text = kind ∧ left = rest := by simpa [hs, Except.map] using h
    exact .string

theorem scans_of_rawString (h : rawString s = (.ok kind, rest)) : Scans s kind rest := by
  unfold rawString at h
  split at h
  · obtain ⟨rfl, -⟩ : TokenKind.string _ = kind ∧ _ = rest := by simpa using h
    exact .string
  · simp at h

theorem scans_of_timestamp (h : timestamp s = (.ok kind, rest)) : Scans s kind rest := by
  unfold timestamp at h
  dsimp only at h
  split at h
  · simp at h
  · split at h
    · rename_i hread
      obtain ⟨rfl, -⟩ : TokenKind.timestamp _ = kind ∧ _ = rest := by simpa using h
      exact .timestamp hread
    · simp at h

theorem scans_of_number (hs : StartsNumber s) (h : number s = (.ok kind, rest)) : Scans s kind rest := by
  unfold number at h
  dsimp only at h
  split at h
  · simp at h
  · split at h
    · -- an integer is the whole part alone
      rename_i hempty
      obtain ⟨hfraction, hexponent⟩ := by simpa using hempty
      rw [hfraction] at hexponent
      simp only [hfraction, hexponent, List.append_nil] at h
      split at h
      · rename_i hi
        obtain ⟨rfl, rfl⟩ : TokenKind.integer _ = kind ∧ _ = rest := by simpa using h
        exact .integer hs hi
      · simp at h
    · split at h
      · obtain ⟨rfl, -⟩ : TokenKind.float _ = kind ∧ _ = rest := by simpa using h
        exact .float hs
      · simp at h

theorem scans_of_symbol (h : symbol s = (.ok kind, rest)) : Scans s kind rest := by
  unfold symbol at h
  split at h
  · rename_i hsymbol
    obtain ⟨rfl, rfl⟩ : _ = kind ∧ _ = rest := by simpa using h
    exact .symbol hsymbol
  · simp at h

/-- A token of a text comes from one of the scanners. -/
theorem scans_of_token {before : Before} (hs : s ≠ []) (h : token before s = (.ok kind, rest)) : Scans s kind rest := by
  unfold token at h
  split at h
  · exact scans_of_path h
  · exact scans_of_string h
  · exact scans_of_rawString h
  · exact scans_of_timestamp h
  · split at h
    · rename_i hdigit
      exact scans_of_number (.minus (Bool.and_eq_true _ _ ▸ hdigit).1) h
    · exact scans_of_symbol h
  · split at h
    · obtain ⟨rfl, -⟩ : TokenKind.abortMarker = kind ∧ _ = rest := by simpa using h
      exact .abortMarker
    · exact scans_of_symbol h
  · split at h
    · rename_i hdigit
      exact scans_of_number (.digit hdigit) h
    · split at h
      · rename_i hstart
        obtain ⟨rfl, rfl⟩ : wordKind _ = kind ∧ _ = rest := by simpa [word] using h
        exact .word hstart
      · exact scans_of_symbol h
  · exact absurd rfl hs

end

/-- A kind that a scanner may give for a text: not the end of a program, not invalid, and a line break only for a
line break. -/
def Scanned (s : List Char) (kind : TokenKind) : Prop :=
  kind ≠ .eof ∧ kind ≠ .invalid ∧ (kind = .newline → ∃ rest, s = '\n' :: rest)

theorem symbol?_kind {s : List Char} {kind : TokenKind} {width : Nat}
    (h : symbol? s = some (kind, width)) : Scanned s kind := by
  unfold symbol? at h
  split at h <;> simp at h <;> simp [Scanned, ← h.1]

theorem wordKind_scanned (s : List Char) (name : String) : Scanned s (wordKind name) := by
  unfold wordKind
  split <;> simp [Scanned]

theorem Scans.scanned {s rest : List Char} {kind : TokenKind} (h : Scans s kind rest) : Scanned s kind := by
  cases h with
  | word => exact wordKind_scanned _ _
  | symbol hsymbol => exact symbol?_kind hsymbol
  | _ => simp [Scanned]

/-- Only the lexer makes the end of a program and invalid tokens. -/
theorem token_kind {before : Before} {s rest : List Char} {kind : TokenKind} (hs : s ≠ [])
    (h : token before s = (.ok kind, rest)) : Scanned s kind :=
  (scans_of_token hs h).scanned

/-- Tokens that carry the value of a literal. -/
def isLiteral : TokenKind → Bool
  | .string _ | .integer _ | .float _ | .timestamp _ => true
  | _ => false

theorem isLiteral_wordKind (name : String) : isLiteral (wordKind name) = false := by
  unfold wordKind
  split <;> rfl

theorem isLiteral_of_symbol? {s : List Char} {kind : TokenKind} {width : Nat} (h : symbol? s = some (kind, width)) :
    isLiteral kind = false := by
  unfold symbol? at h
  split at h <;> simp at h <;> simp [isLiteral, ← h.1]

/-! ### The text that is left -/

theorem skipTrivia_suffix (s : List Char) : skipTrivia s <:+ s := by
  fun_induction skipTrivia s with
  | case1 => exact List.suffix_refl _
  | case2 c rest _ ih => exact ih.trans (List.suffix_cons c rest)
  | case3 rest _ ih => exact (ih.trans (List.dropWhile_suffix _)).trans (List.suffix_cons _ rest)
  | case4 => exact List.suffix_refl _

theorem codePoint_suffix (s : List Char) : (codePoint s).2 <:+ s := by
  unfold codePoint
  split
  · rename_i s
    have hbraced : ∀ hex s, (braced hex s).2 <:+ s := by
      intro hex s
      unfold braced
      split
      · exact List.suffix_cons _ _
      · exact List.suffix_refl _
    exact ((hbraced _ _).trans (List.drop_suffix _ s)).trans (List.suffix_cons _ s)
  · exact List.suffix_refl _

theorem escape_suffix (s : List Char) : (escape s).2 <:+ s := by
  rcases s with _ | ⟨c, s⟩
  · exact List.suffix_refl _
  · unfold escape
    dsimp only
    split
    all_goals first
      | exact (codePoint_suffix s).trans (List.suffix_cons _ s)
      | exact List.suffix_cons _ s
      | exact List.suffix_refl _

theorem stringBody_suffix {s rest : List Char} (h : (stringBody s).rest = some rest) : rest <:+ s := by
  induction hn : s.length using Nat.strongRecOn generalizing s with
  | _ n ih =>
    rcases s with _ | ⟨c, s⟩
    · simp [stringBody] at h
    · simp only [List.length_cons] at hn
      rw [stringBody] at h
      split at h
      · obtain rfl := Option.some.inj h
        exact List.suffix_cons c s
      · split at h
        · have hlen := length_escape_le s
          have hbody : (stringBody (escape s).2).rest = some rest := by
            cases hvalid : (escape s).1 <;> simpa [hvalid] using h
          exact ((ih _ (by omega) hbody rfl).trans (escape_suffix s)).trans (List.suffix_cons c s)
        · exact (ih _ (by omega) h rfl).trans (List.suffix_cons c s)

theorem string_suffix (s : List Char) : (string s).2 <:+ s := by
  unfold string
  dsimp only
  split
  · exact List.nil_suffix
  · rename_i h _
    exact (stringBody_suffix h).trans (List.drop_suffix 1 s)
  · rename_i h _
    exact (stringBody_suffix h).trans (List.drop_suffix 1 s)

theorem rawBody_suffix {s text rest : List Char} (h : rawBody s = some (text, rest)) : rest <:+ s := by
  fun_induction rawBody s generalizing text with
  | case1 => cases h
  | case2 s =>
    obtain ⟨-, rfl⟩ : [] = text ∧ s = rest := by simpa using h
    exact List.suffix_cons _ s
  | case3 s ih =>
    obtain ⟨⟨text', rest'⟩, hbody, heq⟩ := Option.map_eq_some_iff.1 h
    obtain ⟨-, rfl⟩ := Prod.mk.inj heq
    exact ((ih hbody).trans (List.suffix_cons _ s)).trans (List.suffix_cons _ _)
  | case4 c s _ _ ih =>
    obtain ⟨⟨text', rest'⟩, hbody, heq⟩ := Option.map_eq_some_iff.1 h
    obtain ⟨-, rfl⟩ := Prod.mk.inj heq
    exact (ih hbody).trans (List.suffix_cons c s)

theorem rawString_suffix (s : List Char) : (rawString s).2 <:+ s := by
  unfold rawString
  split
  · rename_i h
    exact (rawBody_suffix h).trans (List.drop_suffix 2 s)
  · exact List.nil_suffix

theorem timestamp_suffix (s : List Char) : (timestamp s).2 <:+ s := by
  unfold timestamp
  dsimp only
  split
  · exact List.nil_suffix
  · rename_i q rest h
    have hrest : rest <:+ s :=
      ((List.suffix_cons q rest).trans (h ▸ List.dropWhile_suffix _)).trans (List.drop_suffix 2 s)
    split
    · exact hrest
    · exact hrest

theorem index_suffix (s : List Char) : (index s).2 <:+ s := by
  unfold index
  dsimp only
  split
  · rename_i rest h
    have hrest : rest <:+ s := (List.suffix_cons _ rest).trans (h ▸ List.drop_suffix _ s)
    split
    · exact hrest
    · exact hrest
  · exact List.drop_suffix _ s

theorem keyOrString_suffix (s : List Char) : (keyOrString s).2 <:+ s := by
  unfold keyOrString
  split
  · exact string_suffix _
  · exact List.dropWhile_suffix _

theorem segment_suffix {s : List Char} {o : Outcome Segment} (h : segment? s = some o) : o.2 <:+ s := by
  unfold segment? at h
  split at h
  · obtain rfl := Option.some.inj h
    exact (keyOrString_suffix _).trans (List.drop_suffix 1 s)
  · split at h
    · obtain rfl := Option.some.inj h
      exact index_suffix s
    · cases h

theorem segments_suffix (fuel : Nat) (s : List Char) : (segments fuel s).2 <:+ s := by
  induction fuel generalizing s with
  | zero => exact List.suffix_refl _
  | succ fuel ih =>
    unfold segments
    split
    · exact List.suffix_refl _
    · rename_i h
      exact segment_suffix h
    · rename_i rest h
      exact (ih rest).trans (segment_suffix h)

theorem number_suffix (s : List Char) : (number s).2 <:+ s := by
  unfold number
  dsimp only
  split
  · exact (List.drop_suffix _ _).trans (List.drop_suffix _ s)
  · split
    · split
      · exact List.drop_suffix _ s
      · exact List.drop_suffix _ s
    · split
      · exact List.drop_suffix _ s
      · exact List.drop_suffix _ s

theorem symbol_suffix (s : List Char) : (symbol s).2 <:+ s := by
  unfold symbol
  split
  · exact List.drop_suffix _ s
  · exact List.drop_suffix 1 s

/-- What a scanner leaves is the end of its text. -/
theorem token_suffix (before : Before) (s : List Char) : (token before s).2 <:+ s := by
  unfold token
  split
  · unfold path
    split
    · exact segments_suffix _ _
    · exact List.drop_suffix 1 _
  · exact string_suffix _
  · exact rawString_suffix _
  · exact timestamp_suffix _
  · split
    · exact number_suffix _
    · exact symbol_suffix _
  · split
    · exact List.drop_suffix 1 _
    · exact symbol_suffix _
  · split
    · exact number_suffix _
    · split
      · exact List.dropWhile_suffix _
      · exact symbol_suffix _
  · exact List.suffix_refl _

theorem suffix_of_scan {before : Before} {o : Except Issue TokenKind} {s rest : List Char}
    (h : token before s = (o, rest)) : rest <:+ s := by
  have hsuffix := token_suffix before s
  rwa [h] at hsuffix

/-! ### After an error -/

theorem skipQuoted_suffix (quote : Char) (s : List Char) : skipQuoted quote s <:+ s := by
  fun_induction skipQuoted quote s with
  | case1 => exact List.suffix_refl _
  | case2 => exact List.suffix_cons _ _
  | case3 c rest ih => exact (ih.trans (List.suffix_cons c rest)).trans (List.suffix_cons _ _)
  | case4 rest => exact List.suffix_cons _ rest
  | case5 c rest _ _ _ ih => exact ih.trans (List.suffix_cons c rest)

theorem recover_suffix (depth : Nat) (s : List Char) : recover depth s <:+ s := by
  fun_induction recover depth s with
  | case1 => exact List.suffix_refl _
  | case2 => exact List.suffix_refl _
  | case3 depth c rest _ _ ih =>
    exact (ih.trans (skipQuoted_suffix c rest)).trans (List.suffix_cons c rest)
  | case4 depth rest _ _ ih => exact (ih.trans (List.dropWhile_suffix _)).trans (List.suffix_cons _ rest)
  | case5 depth rest _ _ _ ih => exact ih.trans (List.suffix_cons _ rest)
  | case6 depth rest _ _ _ _ ih => exact ih.trans (List.suffix_cons _ rest)
  | case7 depth c rest _ _ _ _ _ ih => exact ih.trans (List.suffix_cons c rest)

end Scan

end Reshape
