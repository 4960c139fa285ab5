/-
Reading by index follows the cursor.

A cursor over a list has an index in it, which is in bounds as the end is never passed.  Each step by index does at
that index what the step of the cursor does, and looks at tokens of the list only.  The one step that gets stuck is a
sign that cannot be applied, and where the cursor has noted that, the reader by index has ended.

* `Cursor.Over` — the cursor is before the last tokens of a list, the end among them;
* `NegatesLeast` — an index whose sign cannot be applied;
* `Walk.Follows` — the reader by index does what the reader of the cursor does;
* `Walk.follows_bind` — steps in a row follow.
-/
import Reshape.Proofs.Statements
import Reshape.Proofs.Stepping

namespace Reshape

variable {α β : Type} {ts : List Token}

/-! ### Cursors over a list -/

namespace Cursor

/-- The cursor is before the last tokens of a list, the end among them, and knows the token behind it. -/
structure Over (ts : List Token) (c : Cursor) : Prop where
  behind : ∃ front, ts = front ++ c.tokens ∧ ∀ t ∈ front.getLast?, c.last = t.span
  closed : ∃ inner stop, c.tokens = inner ++ [stop] ∧ stop.kind = .eof

/-- Where the cursor is in a list. -/
def position (ts : List Token) (c : Cursor) : Position :=
  ⟨ts.length - c.tokens.length, c.diagnostics⟩

/-- The end that a list has, or that is put behind it. -/
theorem exists_start (ts : List Token) :
    ∃ inner stop, stop.kind = .eof ∧ (start ts).tokens = inner ++ [stop] ∧ (ts = inner ++ [stop] ∨ ts = inner) := by
  rcases List.eq_nil_or_concat' ts with rfl | ⟨inner, stop, rfl⟩
  · exact ⟨[], _, rfl, rfl, .inr rfl⟩
  · by_cases hstop : stop.kind = .eof
    · exact ⟨inner, stop, hstop, by rw [start_of_eof hstop], .inl rfl⟩
    · exact ⟨inner ++ [stop], endToken stop.span, rfl, by simp [start, hstop], .inr rfl⟩

theorem over_start (ts : List Token) : (start ts).Over (start ts).tokens := by
  obtain ⟨inner, stop, hstop, htokens, -⟩ := exists_start ts
  exact ⟨⟨[], rfl, by simp⟩, inner, stop, htokens, hstop⟩

namespace Over

variable {c c' : Cursor}

theorem of_moves (h : c.Over ts) {front : List Token} (hm : Moves c c' front) : c'.Over ts where
  behind := by
    obtain ⟨front₀, hts, hlast⟩ := h.behind
    refine ⟨front₀ ++ front, by rw [hts, hm.tokens, List.append_assoc], fun t ht => ?_⟩
    rw [List.getLast?_append] at ht
    rw [hm.last]
    cases hfront : front.getLast? with
    | none =>
      rw [hfront] at ht
      exact hlast t ht
    | some t' =>
      rw [hfront] at ht
      cases ht
      rfl
  closed := by
    obtain ⟨inner, stop, htokens, hstop⟩ := h.closed
    rcases List.eq_nil_or_concat' c'.tokens with hnil | ⟨inner', stop', hconcat⟩
    · have hmem : stop ∈ front := by
        rw [← List.append_nil front, ← hnil, ← hm.tokens, htokens]
        exact List.mem_append_right _ List.mem_cons_self
      exact absurd hstop (hm.inner stop hmem)
    · have htail : (front ++ inner') ++ [stop'] = inner ++ [stop] := by
        rw [← htokens, hm.tokens, hconcat, List.append_assoc]
      obtain rfl : stop' = stop := by simpa using (List.append_inj' htail rfl).2
      exact ⟨inner', stop', hconcat, hstop⟩

theorem of_reads (h : c.Over ts) (hr : Reads c c') : c'.Over ts := by
  obtain ⟨front, hm⟩ := hr.moves
  exact h.of_moves hm

theorem length_pos (h : c.Over ts) : 0 < c.tokens.length := by
  obtain ⟨inner, stop, htokens, -⟩ := h.closed
  simp [htokens]

theorem length_le (h : c.Over ts) : c.tokens.length ≤ ts.length := by
  obtain ⟨front, hts, -⟩ := h.behind
  simp [hts]

theorem index_lt (h : c.Over ts) : (c.position ts).index < ts.length := by
  have hpos := h.length_pos
  have hle := h.length_le
  simp only [position]
  omega

theorem getElem? (h : c.Over ts) (n : Nat) : ts[(c.position ts).index + n]? = c.tokens[n]? := by
  obtain ⟨front, hts, -⟩ := h.behind
  have hindex : (c.position ts).index = front.length := by simp [position, hts]
  rw [hindex, hts, List.getElem?_append_right (by omega), Nat.add_sub_cancel_left]

/-- The last token ahead stands for all that would be behind it. -/
theorem getElem?_min (h : c.Over ts) (n : Nat) :
    ∃ t, ts[min ((c.position ts).index + n) (ts.length - 1)]? = some t ∧ t.kind = c.kindAt n := by
  obtain ⟨inner, stop, htokens, hstop⟩ := h.closed
  have hle := h.length_le
  have hlength : c.tokens.length = inner.length + 1 := by simp [htokens]
  have hindex : (c.position ts).index = ts.length - c.tokens.length := rfl
  rw [kindAt]
  by_cases hn : n < c.tokens.length
  · rw [Nat.min_eq_left (by omega), h.getElem?, List.getElem?_eq_getElem hn]
    exact ⟨_, rfl, rfl⟩
  · have hmin : min ((c.position ts).index + n) (ts.length - 1) = (c.position ts).index + inner.length := by omega
    refine ⟨stop, ?_, ?_⟩
    · rw [hmin, h.getElem?, htokens]
      simp
    · rw [List.getElem?_eq_none (by omega), hstop]
      rfl

theorem getElem?_current (h : c.Over ts) : ts[min ((c.position ts).index + 0) (ts.length - 1)]? = some c.current := by
  have hpos := h.length_pos
  have hlt := h.index_lt
  rw [Nat.min_eq_left (by omega), h.getElem?, current]
  cases htokens : c.tokens with
  | nil => simp [htokens] at hpos
  | cons t rest => rfl

/-- Past a token the cursor knows its region. -/
theorem exists_behind (h : c.Over ts) (hlt : c.tokens.length < ts.length) :
    ∃ i t, (c.position ts).index = i + 1 ∧ ts[i]? = some t ∧ t.span = c.last := by
  obtain ⟨front, hts, hlast⟩ := h.behind
  rcases List.eq_nil_or_concat' front with rfl | ⟨front, t, rfl⟩
  · simp [hts] at hlt
  · refine ⟨front.length, t, ?_, ?_, (hlast t (by simp)).symm⟩
    · have hlength : ts.length = (front ++ [t]).length + c.tokens.length := by rw [hts, List.length_append]
      simp only [position, List.length_append, List.length_singleton] at hlength ⊢
      omega
    · rw [hts]
      simp

end Over

theorem position_record (c : Cursor) (d : Diagnostic) :
    (c.record d).position ts = { c.position ts with diagnostics := (c.position ts).diagnostics ++ [d] } := by
  simp only [position, diagnostics_record]
  rfl

/-- Past a token that is not the end, the index is one more. -/
theorem position_advance {c : Cursor} (h : c.Over ts) (hkind : c.kind ≠ .eof) :
    c.advance.position ts = { c.position ts with index := (c.position ts).index + 1 } := by
  obtain ⟨t, rest, htokens, -, hadvance⟩ := exists_of_kind_ne hkind
  have hle := h.length_le
  have hrest : c.advance.tokens = rest := by rw [hadvance]
  rw [htokens, List.length_cons] at hle
  simp only [position, diagnostics_advance, hrest, htokens, List.length_cons, Position.mk.injEq, and_true]
  omega

end Cursor

/-- A minus stands before the least integer, in brackets. -/
def NegatesLeast (ts : List Token) : Prop :=
  [.lBracket, .minus, .integer Int64.minValue, .rBracket] <:+: ts.map (·.kind)

instance (ts : List Token) : Decidable (NegatesLeast ts) :=
  inferInstanceAs (Decidable (_ <:+: _))

namespace Walk

/-- The reader by index does what the reader of the cursor does.  If there is an overflow on the way, the cursor is left
without a result, the index nowhere, and there are tokens that cause it. -/
def Follows (ts : List Token) (x : Walk α) (q : Parse α) (c : Cursor) : Prop :=
  c.overflowed = false →
    x ts (c.position ts) =
        (if (q.run c).2.overflowed then .error .overflow else .ok ((q.run c).1, (q.run c).2.position ts)) ∧
      ((q.run c).2.overflowed = true → (q.run c).1 = none ∧ NegatesLeast ts)

variable {x : Walk α} {f : α → Walk β} {q : Parse α} {g : α → Parse β} {c : Cursor}

/-- A reader that notes no overflow. -/
theorem Follows.of_ok (hcalm : (q.run c).2.overflowed = c.overflowed)
    (hx : x ts (c.position ts) = .ok ((q.run c).1, (q.run c).2.position ts)) : Follows ts x q c := by
  intro hc
  rw [hcalm, hc]
  exact ⟨hx, nofun⟩

/-- A result is found by both readers, and without an overflow. -/
theorem Follows.of_some (h : Follows ts x q c) (hc : c.overflowed = false) {a : α} {c' : Cursor}
    (hrun : q.run c = (some a, c')) : x ts (c.position ts) = .ok (some a, c'.position ts) ∧ c'.overflowed = false := by
  obtain ⟨hx, hover⟩ := h hc
  rw [hrun] at hx hover
  have hcalm : c'.overflowed = false := by
    by_contra hne
    cases (hover (by simpa using hne)).1
  rw [hcalm] at hx
  exact ⟨hx, hcalm⟩

/-! ### Steps in a row -/

theorem follows_pure (a : α) : Follows ts (pure a) (pure a) c :=
  .of_ok rfl rfl

theorem follows_bind (hx : Follows ts x q c) (hf : ∀ a c', q.run c = (some a, c') → Follows ts (f a) (g a) c') :
    Follows ts (x >>= f) (q >>= g) c := by
  intro hc
  rcases h : q.run c with ⟨_ | a, c'⟩
  · obtain ⟨hx, hover⟩ := hx hc
    rw [h] at hx hover
    rw [Parse.run_bind_none h]
    refine ⟨?_, fun h => ⟨rfl, (hover h).2⟩⟩
    cases hcalm : c'.overflowed with
    | true =>
      rw [hcalm] at hx
      exact bind_of_error hx
    | false =>
      rw [hcalm] at hx
      exact bind_of_none hx
  · obtain ⟨hx, hcalm⟩ := hx.of_some hc h
    rw [bind_of_ok hx, Parse.run_bind_some h]
    exact hf a c' h hcalm

theorem follows_next (hc : c.Over ts) (hr : Reads c (q.run c).2) (hx : Follows ts x q c)
    (hf : ∀ a c', c'.Over ts → c'.tokens.length ≤ c.tokens.length → Follows ts (f a) (g a) c') :
    Follows ts (x >>= f) (q >>= g) c :=
  follows_bind hx fun a c' h => hf a c' (hc.of_reads (hr.to h)) (hr.to h).length_le

/-- The same for a step that takes a token. -/
theorem follows_eaten (hc : c.Over ts) (he : Eats c (q.run c)) (hx : Follows ts x q c)
    (hf : ∀ a c', c'.Over ts → c'.tokens.length < c.tokens.length → Follows ts (f a) (g a) c') :
    Follows ts (x >>= f) (q >>= g) c :=
  follows_bind hx fun a c' h => hf a c' (hc.of_reads (he.to h)) (he.lt h)

theorem Follows.of_run {q' : Parse α} (hx : Follows ts x q' c) (h : q.run c = q'.run c) : Follows ts x q c := by
  rw [Follows, h]
  exact hx

theorem tokenAt_of_getElem? {p : Position} {i : Nat} {t : Token} (h : ts[i]? = some t) :
    tokenAt i ts p = .ok (some t, p) := by
  rw [tokenAt, h]

theorem current_eq (hc : c.Over ts) : current ts (c.position ts) = .ok (some c.current, c.position ts) :=
  tokenAt_of_getElem? hc.getElem?_current

theorem follows_current {f : Token → Walk α} (hc : c.Over ts) (hf : Follows ts (f c.current) q c) :
    Follows ts (current >>= f) q c := by
  rw [Follows, bind_of_ok (current_eq hc)]
  exact hf

theorem follows_look {f : Token → Walk α} {g : Cursor → Parse α} (hc : c.Over ts)
    (hf : Follows ts (f c.current) (g c) c) : Follows ts (current >>= f) (Parse.cursor >>= g) c :=
  follows_current hc hf

theorem exists_ahead (n : Nat) (hc : c.Over ts) :
    ∃ t : Token, ahead n ts (c.position ts) = .ok (some t, c.position ts) ∧ t.kind = c.kindAt n := by
  obtain ⟨t, ht, hkind⟩ := hc.getElem?_min n
  exact ⟨t, tokenAt_of_getElem? ht, hkind⟩

theorem follows_ahead (n : Nat) {f : Token → Walk α} (hc : c.Over ts)
    (hf : ∀ t : Token, t.kind = c.kindAt n → Follows ts (f t) q c) : Follows ts (ahead n >>= f) q c := by
  obtain ⟨t, hahead, hkind⟩ := exists_ahead n hc
  rw [Follows, bind_of_ok hahead]
  exact hf t hkind

/-! ### Single steps -/

theorem token_eq (hc : c.Over ts) :
    token ts (c.position ts) = .ok (some c.current, c.advance.position ts) := by
  rw [token, bind_of_ok (current_eq hc), c.kind_current]
  by_cases hkind : c.kind = .eof
  · rw [if_pos hkind, Cursor.advance_of_eof hkind]
    rfl
  · rw [if_neg hkind, Cursor.position_advance hc hkind]
    rfl

theorem follows_token (hc : c.Over ts) : Follows ts token Parse.token c :=
  .of_ok c.overflowed_advance (token_eq hc)

theorem follows_report (code : Code) (message : String) (span : Span) (label : String) :
    Follows ts (report code message span label : Walk α) (Parse.report code message span label) c := by
  refine .of_ok (c.overflowed_record _) ?_
  exact congrArg (fun p => Except.ok (none, p)) (Cursor.position_record c _).symm

theorem complain_eq (hc : c.Over ts) (expected : String) :
    complain expected ts (c.position ts) = .ok (some (), (Parse.complain expected c).position ts) := by
  refine (bind_of_ok (current_eq hc)).trans ?_
  unfold Parse.complain
  dsimp only
  split
  · rfl
  · rw [Cursor.position_record]
    rfl

theorem follows_unexpected (hc : c.Over ts) (expected : String) :
    Follows ts (unexpected expected : Walk α) (Parse.unexpected expected) c := by
  refine .of_ok (Parse.overflowed_complain expected c) ?_
  rw [unexpected, bind_of_ok (complain_eq hc expected)]
  rfl

theorem follows_expect (hc : c.Over ts) (kind : TokenKind) (expected : String) :
    Follows ts (expect kind expected) (Parse.expect kind expected) c := by
  refine follows_current hc ?_
  rw [c.kind_current]
  by_cases hkind : c.kind = kind
  · rw [if_pos hkind]
    exact (follows_token hc).of_run (if_pos hkind)
  · rw [if_neg hkind]
    exact (follows_unexpected hc expected).of_run (if_neg hkind)

theorem follows_accept (hc : c.Over ts) (kind : TokenKind) :
    Follows ts (accept kind) (Parse.accept kind) c := by
  refine follows_current hc ?_
  rw [c.kind_current]
  by_cases hkind : c.kind = kind
  · rw [if_pos hkind]
    have htaken : Follows ts (token >>= fun _ => pure true) (Parse.token >>= fun _ => pure true) c :=
      follows_bind (follows_token hc) fun _ c₁ _ => follows_pure true
    exact htaken.of_run (if_pos hkind)
  · rw [if_neg hkind]
    exact (follows_pure false).of_run (if_neg hkind)

/-! ### Loops over tokens -/

/-- A reader by index goes from where one cursor is to where another is, with a result. -/
def Goes (ts : List Token) (x : Walk α) (c : Cursor) (a : α) (c' : Cursor) : Prop :=
  x ts (c.position ts) = .ok (some a, c'.position ts)

theorem goes_current {f : Token → Walk β} {b : β} {c' : Cursor} (hc : c.Over ts) (hf : Goes ts (f c.current) c b c') :
    Goes ts (current >>= f) c b c' :=
  (bind_of_ok (current_eq hc)).trans hf

/-- A change of the cursor that starts past a token. -/
theorem goes_past {y : Walk Unit} {c' c'' : Cursor} (hc : c.Over ts) (hy : Goes ts y c.advance () c')
    (h : c'.position ts = c''.position ts) : Goes ts (token >>= fun _ => y) c () c'' := by
  rw [Goes, bind_of_ok (token_eq hc), hy, h]

theorem goes_stay {c' : Cursor} (h : c' = c) : Goes ts (pure ()) c () c' :=
  h ▸ rfl

theorem position_skipWhile_advance {p : TokenKind → Bool} {c : Cursor} (hkind : c.kind ≠ .eof) (hp : p c.kind = true) :
    (c.advance.skipWhile p).position ts = (c.skipWhile p).position ts := by
  obtain ⟨t, rest, htokens, ht, hadvance⟩ := Cursor.exists_of_kind_ne hkind
  have htake : (p t.kind && t.kind != .eof) = true := by simp [ht, hp, hkind]
  have hdrop : (c.advance.skipWhile p).tokens = (c.skipWhile p).tokens := by
    rw [Cursor.tokens_skipWhile, Cursor.tokens_skipWhile, hadvance, htokens, List.dropWhile_cons, if_pos htake]
  simp only [Cursor.position, hdrop]
  rw [hadvance]
  rfl

theorem goes_skipWhile {p : TokenKind → Bool} (hp : p .eof = false) {fuel : Nat} (hc : c.Over ts)
    (hfuel : c.tokens.length ≤ fuel) : Goes ts (skipWhile p fuel) c () (c.skipWhile p) := by
  induction fuel generalizing c with
  | zero =>
    have hpos := hc.length_pos
    omega
  | succ fuel ih =>
    rw [skipWhile]
    refine goes_current hc ?_
    rw [c.kind_current]
    by_cases hkind : p c.kind = true
    · have heof : c.kind ≠ .eof := by
        rintro heof
        rw [heof, hp] at hkind
        cases hkind
      have hlt := Cursor.length_advance_lt heof
      rw [if_pos hkind]
      exact goes_past hc (ih (hc.of_reads c.advance_reads) (by omega)) (position_skipWhile_advance heof hkind)
    · rw [if_neg hkind]
      exact goes_stay (Cursor.skipWhile_of_kind (by simpa using hkind))

theorem follows_skipWhile {p : TokenKind → Bool} (hp : p .eof = false) {fuel : Nat} (hc : c.Over ts)
    (hfuel : c.tokens.length ≤ fuel) : Follows ts (skipWhile p fuel) (Parse.move (Cursor.skipWhile p)) c :=
  .of_ok rfl (goes_skipWhile hp hc hfuel)

theorem follows_skipNewlines {fuel : Nat} (hc : c.Over ts) (hfuel : c.tokens.length ≤ fuel) :
    Follows ts (skipNewlines fuel) Parse.skipNewlines c :=
  follows_skipWhile rfl hc hfuel

/-- On to the next boundary of a statement, out of so many braces. -/
def seek (inBlock : Bool) (depth : Nat) (c : Cursor) : Cursor :=
  let (tokens, last) := Cursor.boundary inBlock depth c.last c.tokens
  { c with tokens, last }

theorem goes_seek {inBlock : Bool} {fuel : Nat} (depth : Nat) (hc : c.Over ts) (hfuel : c.tokens.length ≤ fuel) :
    Goes ts (synchronize inBlock fuel depth) c () (seek inBlock depth c) := by
  induction fuel generalizing c depth with
  | zero =>
    have hpos := hc.length_pos
    omega
  | succ fuel ih =>
    have hnext (heof : c.kind ≠ .eof) (depth' : Nat)
        (hseek : seek inBlock depth' c.advance = seek inBlock depth c) :
        Goes ts (token >>= fun _ => synchronize inBlock fuel depth') c () (seek inBlock depth c) := by
      have hlt := Cursor.length_advance_lt heof
      exact goes_past hc (ih depth' (hc.of_reads c.advance_reads) (by omega)) (congrArg (Cursor.position ts) hseek)
    have hstop (hseek : c.advance = seek inBlock depth c) :
        Goes ts (token >>= fun _ => pure ()) c () (seek inBlock depth c) :=
      goes_past hc (goes_stay rfl) (congrArg (Cursor.position ts) hseek)
    rw [synchronize]
    refine goes_current hc ?_
    rw [c.kind_current]
    obtain ⟨tokens, last, ns⟩ := c
    rcases tokens with _ | ⟨t, rest⟩
    · simpa using hc.length_pos
    have hkind : Cursor.kind ⟨t :: rest, last, ns⟩ = t.kind := rfl
    rw [hkind] at hnext ⊢
    split
    · rename_i ht
      exact goes_stay (by simp [seek, Cursor.boundary, ht])
    · rename_i ht
      split
      · exact hstop (by simp [seek, Cursor.boundary, Cursor.advance, *])
      · exact hnext (by simp [ht]) depth (by simp [seek, Cursor.boundary, Cursor.advance, *])
    · rename_i ht
      split
      · exact hstop (by simp [seek, Cursor.boundary, Cursor.advance, *])
      · exact hnext (by simp [ht]) depth (by simp [seek, Cursor.boundary, Cursor.advance, *])
    · rename_i ht
      exact hnext (by simp [ht]) (depth + 1) (by simp [seek, Cursor.boundary, Cursor.advance, *])
    · rename_i ht
      split
      · split
        · exact goes_stay (by simp [seek, Cursor.boundary, *])
        · exact hstop (by simp [seek, Cursor.boundary, Cursor.advance, *])
      · exact hnext (by simp [ht]) (depth - 1) (by simp [seek, Cursor.boundary, Cursor.advance, *])
    · rename_i heof hnewline hsemicolon hopen hclose
      have hadvance : Cursor.advance ⟨t :: rest, last, ns⟩ = ⟨rest, t.span, ns⟩ := if_neg heof
      have hboundary : Cursor.boundary inBlock depth last (t :: rest) = Cursor.boundary inBlock depth t.span rest := by
        rw [Cursor.boundary]
        split
        case h_6 => rfl
        all_goals contradiction
      exact hnext heof depth (by rw [hadvance, seek, seek, hboundary])

/-- What is behind a brace starts an object. -/
def opensObject : List Token → Bool
  | [] => false
  | t :: rest =>
    match t.kind with
    | .newline => opensObject rest
    | .rBrace => true
    | .string _ => rest.head?.map (·.kind) == some .colon
    | _ => false

theorem opensObject_eq (c : Cursor) : opensObject (c.tokens.drop 1) = Expr.startsObject c := by
  rw [Expr.startsObject]
  induction c.tokens.drop 1 with
  | nil => rfl
  | cons t rest ih =>
    rw [opensObject, List.dropWhile_cons]
    by_cases ht : t.kind = .newline
    · rw [ht, if_pos (by simp), ih]
    · rw [if_neg (by simpa using ht)]
      split
      · contradiction
      all_goals simp [*]

theorem startsObject_eq {fuel : Nat} (n : Nat) (hc : c.Over ts) (hfuel : c.tokens.length < fuel + n)
    (hn : n ≤ c.tokens.length) :
    Goes ts (startsObject fuel n) c (opensObject (c.tokens.drop n)) c := by
  induction fuel generalizing n with
  | zero => omega
  | succ fuel ih =>
    obtain ⟨t, hahead, ht⟩ := exists_ahead n hc
    have hlook {f : Token → Walk Bool} {b : Bool} (hf : Goes ts (f t) c b c) : Goes ts (ahead n >>= f) c b c :=
      (bind_of_ok hahead).trans hf
    rw [startsObject]
    refine hlook ?_
    rw [Cursor.kindAt, ← List.head?_drop] at ht
    cases hdrop : c.tokens.drop n with
    | nil =>
      rw [hdrop] at ht
      rw [ht]
      rfl
    | cons t' rest =>
      rw [hdrop] at ht
      have hrest : c.tokens.drop (n + 1) = rest := by rw [← List.tail_drop, hdrop, List.tail_cons]
      have hlt : n < c.tokens.length := by
        by_contra hge
        rw [List.drop_eq_nil_of_le (by omega)] at hdrop
        cases hdrop
      rw [ht]
      dsimp only [List.head?_cons, Option.map_some, Option.getD_some]
      split
      · rename_i hkind
        have hnext := ih (n + 1) (by omega) hlt
        rw [hrest] at hnext
        rw [opensObject, hkind]
        exact hnext
      · rename_i hkind
        rw [opensObject, hkind]
        rfl
      · rename_i hkind
        obtain ⟨t₁, hahead₁, ht₁⟩ := exists_ahead (n + 1) hc
        rw [opensObject, hkind, Goes, bind_of_ok hahead₁]
        rw [Cursor.kindAt, ← List.head?_drop, hrest] at ht₁
        rw [ht₁]
        cases rest.head? with
        | none => rfl
        | some t₂ => rfl
      · rename_i hkey
        rw [opensObject]
        split
        · contradiction
        · contradiction
        · rename_i key hkind
          exact absurd hkind (hkey key)
        · rfl

end Walk

end Reshape
