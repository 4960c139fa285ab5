/-
Regions that cover others.

The region that covers two others starts where the one starts that starts first, at its line and column, and stops
where the one stops that stops last.  `Span.join` asks whether the second region lies before the first, and starts with
the first if it does not.  So the start is missed where the first region starts in the second, behind the start of
that, and nowhere else; and then the two are covered if they are joined the other way round.  The parser joins regions
from left to right, where no region starts in a later one.

* `Span.join_covers_iff` — which two regions are covered by their join;
* `Span.join_comm_iff` — which two regions are joined alike in both orders;
* `Span.foldl_join_coversAll` — regions joined one after the other;
* `Expr.parse_joined` — the region of an expression, as a join of the regions of its tokens.
-/
import Reshape.Proofs.Regions

namespace Reshape

namespace Span

/-- The place where the region starts. -/
def mark (s : Span) : Mark :=
  ⟨s.start, s.line, s.column⟩

/-- The region covers both others: it starts at the place of the one that starts first, and stops with the one that
stops last. -/
structure Covers (s a b : Span) : Prop where
  start : s.start = min a.start b.start
  place : s.mark = a.mark ∨ s.mark = b.mark
  stop : s.stop = max a.stop b.stop

/-- The region starts in the other, behind the start of that. -/
def StartsWithin (a b : Span) : Prop :=
  b.start < a.start ∧ a.start < b.stop

instance (a b : Span) : Decidable (a.StartsWithin b) :=
  inferInstanceAs (Decidable (_ ∧ _))

variable {a b s t : Span} {ss : List Span}

/-! ### Two regions -/

theorem eq_of_mark_of_stop (hmark : s.mark = t.mark) (hstop : s.stop = t.stop) : s = t := by
  obtain ⟨start, stop, line, column⟩ := s
  obtain ⟨start', stop', line', column'⟩ := t
  obtain ⟨rfl, rfl, rfl⟩ : start = start' ∧ line = line' ∧ column = column' := by simpa [mark] using hmark
  obtain rfl : stop = stop' := hstop
  rfl

theorem Covers.symm (h : s.Covers a b) : s.Covers b a :=
  ⟨h.start.trans (Nat.min_comm ..), h.place.symm, h.stop.trans (Nat.max_comm ..)⟩

theorem Covers.mark_eq (h : s.Covers a b) (hplace : a.start = b.start → a.mark = b.mark) :
    s.mark = if a.start ≤ b.start then a.mark else b.mark := by
  have hmin := h.start
  rcases h.place with hmark | hmark
  · have hstart : s.start = a.start := congrArg Mark.offset hmark
    rw [if_pos (by omega), hmark]
  · have hstart : s.start = b.start := congrArg Mark.offset hmark
    split
    · exact hmark.trans (hplace (by omega)).symm
    · exact hmark

/-- Where regions that start together do so at one place, no more than one region covers two. -/
theorem Covers.unique (h : s.Covers a b) (h' : t.Covers a b) (hplace : a.start = b.start → a.mark = b.mark) : s = t :=
  eq_of_mark_of_stop ((h.mark_eq hplace).trans (h'.mark_eq hplace).symm) (h.stop.trans h'.stop.symm)

theorem StartsWithin.asymm (h : a.StartsWithin b) : ¬b.StartsWithin a :=
  fun h' => Nat.lt_asymm h.1 h'.1

theorem join_covers (hb : b.start ≤ b.stop) (h : ¬a.StartsWithin b) : (a.join b).Covers a b := by
  by_cases hbefore : b.stop ≤ a.start
  · have hstart : b.start ≤ a.start := Nat.le_trans hb hbefore
    rw [join_of_le hbefore]
    exact ⟨(Nat.min_eq_right hstart).symm, .inr rfl, rfl⟩
  · -- the second region reaches behind the start of the first, so it has to start there or later
    have hreach : a.start < b.stop := Nat.lt_of_not_le hbefore
    have hstart : a.start ≤ b.start := Nat.le_of_not_lt fun hlt => h ⟨hlt, hreach⟩
    rw [join_of_lt hreach]
    exact ⟨(Nat.min_eq_left hstart).symm, .inl rfl, rfl⟩

theorem StartsWithin.mark_join (h : a.StartsWithin b) : (a.join b).mark = a.mark := by
  rw [join_of_lt h.2]
  rfl

theorem StartsWithin.not_covers (h : a.StartsWithin b) : ¬(a.join b).Covers a b := by
  intro hcovers
  have hstart : (a.join b).start = a.start := congrArg Mark.offset h.mark_join
  have hmin := hcovers.start
  have hbehind := h.1
  omega

/-- The join covers both regions, in whatever way they stand to each other, unless the first starts in the second,
behind the start of that.  Then it starts where the first does and stops with the one that stops last, so that the
start of the second is lost; joined the other way round, they are covered. -/
theorem join_covers_iff (ha : a.start ≤ a.stop) (hb : b.start ≤ b.stop) :
    ((a.join b).Covers a b ↔ ¬a.StartsWithin b) ∧
      (a.StartsWithin b →
        (a.join b).mark = a.mark ∧ (a.join b).stop = max a.stop b.stop ∧ (b.join a).Covers a b) := by
  constructor
  · exact ⟨fun hcovers h => h.not_covers hcovers, join_covers hb⟩
  · intro h
    exact ⟨h.mark_join, stop_join a b, (join_covers ha h.asymm).symm⟩

/-- A region in the other, on a later line. -/
theorem join_covers_iff_nested :
    let a : Span := ⟨12, 15, 2, 3⟩
    let b : Span := ⟨4, 19, 1, 5⟩
    a.start ≤ a.stop ∧ b.start ≤ b.stop ∧ (b.join a).Covers a b ∧ ¬(a.join b).Covers a b ∧
      (a.join b).mark = ⟨12, 2, 3⟩ := by
  intro a b
  have hwithin : a.StartsWithin b := by decide
  obtain ⟨hiff, hlost⟩ := @join_covers_iff a b (by decide) (by decide)
  obtain ⟨hmark, -, hother⟩ := hlost hwithin
  exact ⟨by decide, by decide, hother, fun h => hiff.1 h hwithin, hmark⟩

/-- Two regions that overlap, the second in front: their join is the first, and the start of the second is lost. -/
theorem not_covers_join_overlapping :
    let a : Span := ⟨2, 4, 1, 3⟩
    let b : Span := ⟨0, 3, 1, 1⟩
    a.start ≤ a.stop ∧ b.start ≤ b.stop ∧ a.join b = a ∧ ¬(a.join b).Covers a b := by
  intro a b
  have hlost : (a.join b).start ≠ min a.start b.start := by decide
  exact ⟨by decide, by decide, rfl, fun h => hlost h.start⟩

/-- Regions of one text are joined alike in both orders exactly if neither starts in the other, behind its start. -/
theorem join_comm_iff (ha : a.start ≤ a.stop) (hb : b.start ≤ b.stop) (hplace : a.start = b.start → a.mark = b.mark) :
    a.join b = b.join a ↔ ¬a.StartsWithin b ∧ ¬b.StartsWithin a := by
  constructor
  · intro h
    constructor
    · intro hwithin
      exact hwithin.not_covers (h ▸ (join_covers ha hwithin.asymm).symm)
    · intro hwithin
      exact hwithin.not_covers (h ▸ (join_covers hb hwithin.asymm).symm)
  · rintro ⟨h, h'⟩
    exact (join_covers hb h).unique (join_covers ha h').symm hplace

/-! ### Regions in a row -/

/-- The region covers all of the others, and no more: it starts at the place of one of them and stops with one. -/
structure CoversAll (s : Span) (ss : List Span) : Prop where
  inside : ∀ t ∈ ss, t.Inside s
  place : ∃ t ∈ ss, s.mark = t.mark
  stop : ∃ t ∈ ss, s.stop = t.stop

namespace CoversAll

theorem single (s : Span) : s.CoversAll [s] where
  inside := List.forall_mem_singleton.2 ⟨Nat.le_refl _, Nat.le_refl _⟩
  place := ⟨s, List.mem_singleton_self s, rfl⟩
  stop := ⟨s, List.mem_singleton_self s, rfl⟩

/-- What covers a region and one more covers all that the first covers, and the one more. -/
theorem concat {s' : Span} (h : s.CoversAll ss) (hs' : s'.Covers s t) : s'.CoversAll (ss ++ [t]) where
  inside := by
    have hstart := hs'.start
    have hstop := hs'.stop
    have hs : s.Inside s' := ⟨by omega, by omega⟩
    have ht : t.Inside s' := ⟨by omega, by omega⟩
    refine List.forall_mem_append.2 ⟨fun r hr => ?_, List.forall_mem_singleton.2 ht⟩
    have hrs : r.Inside s := h.inside r hr
    exact ⟨Nat.le_trans hs.1 hrs.1, Nat.le_trans hrs.2 hs.2⟩
  place := by
    rcases hs'.place with hplace | hplace
    · obtain ⟨r, hr, hmark⟩ := h.place
      exact ⟨r, List.mem_append_left _ hr, hplace.trans hmark⟩
    · exact ⟨t, List.mem_concat_self, hplace⟩
  stop := by
    rcases Nat.le_total t.stop s.stop with hle | hle
    · obtain ⟨r, hr, hstop⟩ := h.stop
      exact ⟨r, List.mem_append_left _ hr, by rw [hs'.stop, Nat.max_eq_left hle, hstop]⟩
    · exact ⟨t, List.mem_concat_self, by rw [hs'.stop, Nat.max_eq_right hle]⟩

/-- One more region is joined, in which none of those before starts. -/
theorem join (h : s.CoversAll ss) (ht : t.start ≤ t.stop) (hss : ∀ r ∈ ss, ¬r.StartsWithin t) :
    (s.join t).CoversAll (ss ++ [t]) := by
  -- the region so far starts where one of those before does
  obtain ⟨r, hr, hmark⟩ := h.place
  have hstart : s.start = r.start := congrArg Mark.offset hmark
  have hwithin : ¬s.StartsWithin t := by
    rw [StartsWithin, hstart]
    exact hss r hr
  exact h.concat (join_covers ht hwithin)

theorem foldl_join {rest : List Span} (h : s.CoversAll ss) (hproper : ∀ t ∈ rest, t.start ≤ t.stop)
    (hpairs : (ss ++ rest).Pairwise fun r t => ¬r.StartsWithin t) :
    (rest.foldl Span.join s).CoversAll (ss ++ rest) := by
  induction rest generalizing s ss with
  | nil => simpa using h
  | cons t rest ih =>
    obtain ⟨ht, hrest⟩ := List.forall_mem_cons.1 hproper
    have hss : ∀ r ∈ ss, ¬r.StartsWithin t := fun r hr =>
      (List.pairwise_append.1 hpairs).2.2 r hr t List.mem_cons_self
    rw [List.append_cons] at hpairs ⊢
    exact ih (h.join ht hss) hrest hpairs

end CoversAll

/-- Regions joined one after the other are covered if none of them starts in a later one, behind the start of that. -/
theorem foldl_join_coversAll (hproper : ∀ t ∈ ss, t.start ≤ t.stop)
    (hpairs : (s :: ss).Pairwise fun r t => ¬r.StartsWithin t) : (ss.foldl join s).CoversAll (s :: ss) :=
  (CoversAll.single s).foldl_join hproper hpairs

end Span

/-! ### Regions of tokens -/

variable {ts us : List Token} {s s' : Span}

theorem Ordered.pairwise_not_startsWithin (h : Ordered ts) :
    (ts.map (·.span)).Pairwise fun r t => ¬r.StartsWithin t := by
  refine List.pairwise_map.2 (h.apart.imp_of_mem fun {t u} ht hu hapart hwithin => ?_)
  have hproper := h.proper t ht
  have hbehind := hwithin.1
  omega

/-- A run of tokens has one region. -/
theorem Spans.unique (h : Spans ts s) (h' : Spans ts s') : s = s' := by
  obtain ⟨first, last, hfirst, hlast, rfl⟩ := h
  obtain ⟨first', last', hfirst', hlast', rfl⟩ := h'
  obtain rfl := Option.some.inj (hfirst.symm.trans hfirst')
  obtain rfl := Option.some.inj (hlast.symm.trans hlast')
  rfl

theorem Spans.foldl_join (h : Spans ts s) (hus : Ordered (ts ++ us)) :
    Spans (ts ++ us) ((us.map (·.span)).foldl Span.join s) := by
  induction us generalizing ts s with
  | nil => simpa using h
  | cons u us ih =>
    rw [List.append_cons] at hus ⊢
    have hfront : Ordered (ts ++ [u]) := hus.of_infix (List.prefix_append _ us).isInfix
    exact ih (h.join (.token u) (List.suffix_refl _) hfront) hus

/-- The region of a run of tokens is that of the tokens, joined from left to right, and covers them. -/
theorem Spans.exists_joined (h : Spans ts s) (hts : Ordered ts) :
    ∃ t rest, ts = t :: rest ∧ s = (rest.map (·.span)).foldl Span.join t.span ∧ s.CoversAll (ts.map (·.span)) := by
  have ⟨t, _, hhead, _⟩ := h
  obtain ⟨rest, rfl⟩ := List.head?_eq_some_iff.1 hhead
  have hs : s = (rest.map (·.span)).foldl Span.join t.span := h.unique ((Spans.token t).foldl_join hts)
  have hproper : ∀ r ∈ rest.map (·.span), r.start ≤ r.stop :=
    List.forall_mem_map.2 fun u hu => Nat.le_of_lt (hts.proper u (List.mem_cons_of_mem t hu))
  exact ⟨t, rest, rfl, hs, hs ▸ Span.foldl_join_coversAll hproper hts.pairwise_not_startsWithin⟩

namespace Expr

/-- The statements of a program, whatever is wrong with it, are where their tokens are. -/
theorem exists_placedAll_of_parse {source : String} {es : List Expr} {ds : List Diagnostic}
    (hparse : parse (tokenize source).1 = .ok (es, ds)) :
    ∃ front, front <:+: (tokenize source).1 ∧ Ordered front ∧ PlacedAll front es := by
  have hstart := start_tokenize source
  have horder : InOrder (tokenize source).1 := (Lexer.tiling_run source.toList).inOrder
  obtain ⟨c', hrun, -, -⟩ := parse_eq_ok.1 hparse
  generalize Cursor.start (tokenize source).1 = c at hstart hrun
  have hc : c.InOrder := by rwa [Cursor.InOrder, hstart]
  have htakes := (readersTake (fuelFor c.tokens.length)).statements false hc
  rw [hrun] at htakes
  obtain ⟨front, hmoves, hplaced⟩ := htakes es rfl
  have hprefix : front <+: (tokenize source).1 := ⟨_, hstart ▸ hmoves.tokens.symm⟩
  exact ⟨front, hprefix.isInfix, hmoves.ordered hc, hplaced⟩

/-- Every expression of a program, at any depth and whatever is wrong elsewhere, is read from a run of tokens; its
region is that of the tokens, joined from left to right, and covers every one of them. -/
theorem parse_joined {source : String} {es : List Expr} {ds : List Diagnostic}
    (hparse : parse (tokenize source).1 = .ok (es, ds)) {e m : Expr} (he : e ∈ es) (hm : e.HasPart m) :
    ∃ t ts, t :: ts <:+: (tokenize source).1 ∧ m.span = (ts.map (·.span)).foldl Span.join t.span ∧
      m.span.CoversAll ((t :: ts).map (·.span)) := by
  obtain ⟨front, hfront, hordered, hall⟩ := exists_placedAll_of_parse hparse
  obtain ⟨own, hown, hplaced⟩ := hall.each e he
  obtain ⟨taken, htaken, hspans, -⟩ := hplaced.parts m hm
  have hinfix : taken <:+: front := htaken.trans hown
  obtain ⟨t, ts, rfl, hspan, hcovers⟩ := hspans.exists_joined (hordered.of_infix hinfix)
  exact ⟨t, ts, hinfix.trans hfront, hspan, hcovers⟩

end Expr

end Reshape
