/-
What a clock shows between its changes.

The spans between changes may overlap as the clock shows them, or leave a gap.  Where the clock keeps within a day of
UTC and is changed no more than every other day, they begin one after the other and end one after the other, and of
three in a row the first is over before the last begins.  So there are at most two that contain a time, which are
neighbours, and a search that halves finds one of them.

* `Zone.WithinDay`, `Zone.Spaced` — what a zone has to meet;
* `Zone.shows_iff` — the clock shows a time within the spans that contain it;
* `Zone.pairwise_localSpans`, `Zone.isOver_of_infix` — the order of the spans;
* `Zone.contains_of_search`, `Zone.not_contains_of_search` — the search finds a span that contains the time, if there
  is one;
* `Zone.finds_offsetsShowing`, `Zone.Finds.earliest` — the first offset that is found leads to the earliest instant.
-/
import Mathlib.Data.List.Chain
import Reshape.Time.Zone.Basic

namespace Reshape

/-- The earliest instant with a property, or none if no instant has it. -/
def Earliest (P : Int → Prop) : Option Int → Prop
  | some m => P m ∧ ∀ n, P n → m ≤ n
  | none => ∀ n, ¬P n

namespace Zone

/-! ### Offsets -/

/-- Every offset that the clock of the zone had, each once. -/
def offsets (z : Zone) : List Int :=
  (z.first :: z.changes.map (·.2)).eraseDups

/-- The clock is never a day or more away from UTC. -/
def WithinDay (z : Zone) : Prop :=
  ∀ offset ∈ z.offsets, offset.natAbs < 86400

/-- At least two days lie between one change of the clock and the next.  No two changes that the time zone database
records are that close: the nearest are almost four days apart. -/
def Spaced (z : Zone) : Prop :=
  z.changes.IsChain fun c d => c.1 + 2 * 86400 ≤ d.1

instance (z : Zone) : Decidable z.Spaced :=
  inferInstanceAs (Decidable (List.IsChain _ _))

theorem mem_offsets {z : Zone} {offset : Int} :
    offset ∈ z.offsets ↔ offset = z.first ∨ ∃ c ∈ z.changes, c.2 = offset := by
  rw [offsets, List.mem_eraseDups, List.mem_cons, List.mem_map]

theorem offsetAfter_mem (current second : Int) (changes : List (Int × Int)) :
    offsetAfter current second changes = current ∨ ∃ c ∈ changes, c.2 = offsetAfter current second changes := by
  induction changes generalizing current with
  | nil => exact .inl rfl
  | cons c rest ih =>
    rw [offsetAfter]
    split
    · rcases ih c.2 with h | ⟨d, hd, h⟩
      · exact .inr ⟨c, List.mem_cons_self, h.symm⟩
      · exact .inr ⟨d, List.mem_cons_of_mem _ hd, h⟩
    · exact .inl rfl

theorem offsetAt_mem (z : Zone) (second : Int) : z.offsetAt second ∈ z.offsets :=
  mem_offsets.2 (offsetAfter_mem z.first second z.changes)

/-- What is left of the changes of a clock within a day of UTC: the last change before, the offset since, and the
changes behind, with two days between each and the next. -/
def Regular (start : Option Int) (offset : Int) : List (Int × Int) → Prop
  | [] => offset.natAbs < 86400
  | (second, next) :: rest =>
    offset.natAbs < 86400 ∧ (∀ s ∈ start, s + 2 * 86400 ≤ second) ∧ Regular (some second) next rest

instance decidableRegular : ∀ start offset changes, Decidable (Regular start offset changes)
  | _, offset, [] => inferInstanceAs (Decidable (offset.natAbs < 86400))
  | start, offset, (second, next) :: rest =>
    have := decidableRegular (some second) next rest
    inferInstanceAs (Decidable (offset.natAbs < 86400 ∧ (∀ s ∈ start, s + 2 * 86400 ≤ second) ∧ _))

theorem regular_iff {changes : List (Int × Int)} {start : Option Int} {offset : Int} :
    Regular start offset changes ↔ (offset.natAbs < 86400 ∧ ∀ c ∈ changes, c.2.natAbs < 86400) ∧
      (∀ s ∈ start, ∀ c ∈ changes.head?, s + 2 * 86400 ≤ c.1) ∧
        changes.IsChain fun c d => c.1 + 2 * 86400 ≤ d.1 := by
  induction changes generalizing start offset with
  | nil => simp [Regular]
  | cons c rest ih =>
    rw [Regular, ih, List.isChain_cons, List.forall_mem_cons]
    simp only [List.head?_cons, Option.mem_some_iff, forall_eq']
    tauto

/-- A clock is regular if it keeps within a day of UTC and two days lie between its changes. -/
theorem regular_changes {z : Zone} : Regular none z.first z.changes ↔ z.WithinDay ∧ z.Spaced := by
  have hoffsets : z.WithinDay ↔ z.first.natAbs < 86400 ∧ ∀ c ∈ z.changes, c.2.natAbs < 86400 := by
    simp only [WithinDay, mem_offsets, forall_eq_or_imp, forall_exists_index, and_imp, forall_apply_eq_imp_iff₂]
  rw [regular_iff, hoffsets]
  exact and_congr_right fun _ => and_iff_right fun _ hs => nomatch hs

/-! ### Times in a span -/

/-- The clock shows the second of its own count at the instant. -/
def Shows (z : Zone) (shown second : Int) : Prop :=
  second + z.offsetAt second = shown

namespace LocalSpan

variable {start stop : Option Int} {offset shown : Int}

theorem hasBegun_iff : (⟨start.map (· + offset), stop, offset⟩ : LocalSpan).hasBegun shown = true ↔
    ∀ s ∈ start, s + offset ≤ shown := by
  cases start <;> simp [hasBegun]

theorem isOver_iff {s : LocalSpan} : s.isOver shown = true ↔ ∃ stop ∈ s.stop, stop ≤ shown := by
  rw [isOver]
  cases s.stop <;> simp

theorem contains_iff {s : LocalSpan} : s.contains shown = true ↔ s.hasBegun shown = true ∧ ¬s.isOver shown = true := by
  simp [contains]

theorem contains_mk_iff : (⟨start.map (· + offset), stop, offset⟩ : LocalSpan).contains shown = true ↔
    (∀ s ∈ start, s + offset ≤ shown) ∧ ∀ s ∈ stop, shown < s := by
  rw [contains_iff, hasBegun_iff, isOver_iff]
  simp

theorem compare_eq_eq_iff {s : LocalSpan} : s.compare shown = .eq ↔ s.contains shown = true := by
  rw [compare, contains]
  cases s.hasBegun shown <;> cases s.isOver shown <;> decide

theorem compare_eq_lt_iff {s : LocalSpan} :
    s.compare shown = .lt ↔ s.hasBegun shown = true ∧ s.isOver shown = true := by
  rw [compare, contains]
  cases s.hasBegun shown <;> cases s.isOver shown <;> decide

theorem compare_eq_gt_iff {s : LocalSpan} : s.compare shown = .gt ↔ ¬s.hasBegun shown = true := by
  rw [compare, contains]
  cases s.hasBegun shown <;> cases s.isOver shown <;> decide

end LocalSpan

/-- The instants since a change at which the clock shows a time. -/
theorem shows_from {changes : List (Int × Int)} {start : Option Int} {offset shown second : Int}
    (h : Regular start offset changes) :
    (∀ s ∈ start, s ≤ second) ∧ second + offsetAfter offset second changes = shown ↔
      ∃ span ∈ localSpansFrom start offset changes, span.contains shown = true ∧ second = shown - span.offset := by
  induction changes generalizing start offset with
  | nil =>
    simp only [localSpansFrom, offsetAfter, List.mem_singleton, exists_eq_left, LocalSpan.contains_mk_iff,
      Option.not_mem_none, false_imp_iff, implies_true, and_true]
    constructor
    · rintro ⟨hstart, hsecond⟩
      exact ⟨fun s hs => by have := hstart s hs; omega, by omega⟩
    · rintro ⟨hstart, hsecond⟩
      exact ⟨fun s hs => by have := hstart s hs; omega, by omega⟩
  | cons c rest ih =>
    obtain ⟨change, next⟩ := c
    obtain ⟨-, hstart, hrest⟩ := h
    have hlater : _ ↔ ∃ span ∈ localSpansFrom (some change) next rest, span.contains shown = true ∧
      second = shown - span.offset := ih hrest
    simp only [localSpansFrom, offsetAfter, List.exists_mem_cons_iff, LocalSpan.contains_mk_iff, Option.mem_some_iff,
      forall_eq']
    by_cases hsecond : change ≤ second
    · -- the change is past, and with it the first span
      rw [if_pos hsecond, ← hlater]
      constructor
      · rintro ⟨-, hshown⟩
        exact .inr ⟨fun s hs => Option.some.inj hs ▸ hsecond, hshown⟩
      · rintro (⟨⟨-, hstop⟩, hshown⟩ | ⟨-, hshown⟩)
        · omega
        · exact ⟨fun s hs => by have := hstart s hs; omega, hshown⟩
    · rw [if_neg hsecond, ← hlater]
      constructor
      · rintro ⟨hbegun, hshown⟩
        exact .inl ⟨⟨fun s hs => by have := hbegun s hs; omega, by omega⟩, by omega⟩
      · rintro (⟨⟨hbegun, -⟩, hshown⟩ | ⟨hbegun, -⟩)
        · exact ⟨fun s hs => by have := hbegun s hs; omega, by omega⟩
        · exact absurd (hbegun change rfl) hsecond

/-- The clock shows a time at the instants within the spans that contain it. -/
theorem shows_iff {z : Zone} (hz : z.WithinDay) (hspaced : z.Spaced) {shown second : Int} :
    z.Shows shown second ↔ ∃ span ∈ z.localSpans, span.contains shown = true ∧ second = shown - span.offset :=
  (shows_from (regular_changes.2 ⟨hz, hspaced⟩)).symm.trans (and_iff_right fun _ hs => nomatch hs) |>.symm

/-! ### The order of spans -/

namespace LocalSpan

/-- One span stands before another: it begins and ends before, and where they overlap the clock has been put back. -/
def Precedes (a b : LocalSpan) : Prop :=
  ∀ shown, (b.hasBegun shown = true → a.hasBegun shown = true) ∧ (b.isOver shown = true → a.isOver shown = true) ∧
    (a.contains shown = true → b.contains shown = true → b.offset < a.offset)

/-- A span between two that contain a time contains it too. -/
theorem Precedes.contains {a b c : LocalSpan} {shown : Int} (hab : a.Precedes b) (hbc : b.Precedes c)
    (ha : a.contains shown = true) (hc : c.contains shown = true) : b.contains shown = true := by
  rw [contains_iff] at ha hc ⊢
  exact ⟨(hbc shown).1 hc.1, fun hover => ha.2 ((hab shown).2.1 hover)⟩

instance : IsTrans LocalSpan Precedes where
  trans a b c hab hbc shown := by
    refine ⟨fun h => (hab shown).1 ((hbc shown).1 h), fun h => (hab shown).2.1 ((hbc shown).2.1 h), fun ha hc => ?_⟩
    have hb := hab.contains hbc ha hc
    exact Int.lt_trans ((hbc shown).2.2 hb hc) ((hab shown).2.2 ha hb)

end LocalSpan

theorem Regular.natAbs_lt {changes : List (Int × Int)} {start : Option Int} {offset : Int}
    (h : Regular start offset changes) : offset.natAbs < 86400 := by
  cases changes with
  | nil => exact h
  | cons c rest => exact h.1

theorem Regular.le_of_head? {changes : List (Int × Int)} {start : Option Int} {offset : Int}
    (h : Regular start offset changes) {s : Int} (hs : s ∈ start) {c : Int × Int} (hc : c ∈ changes.head?) :
    s + 2 * 86400 ≤ c.1 := by
  cases changes with
  | nil => cases hc
  | cons d rest =>
    obtain rfl : d = c := Option.some.inj hc
    exact h.2.1 s hs

theorem head?_localSpansFrom (start : Option Int) (offset : Int) (changes : List (Int × Int)) :
    (localSpansFrom start offset changes).head? =
      some ⟨start.map (· + offset), changes.head?.map (·.1 + offset), offset⟩ := by
  cases changes <;> rfl

/-- A span stands before the one behind it. -/
theorem isChain_localSpansFrom {changes : List (Int × Int)} {start : Option Int} {offset : Int}
    (h : Regular start offset changes) : (localSpansFrom start offset changes).IsChain LocalSpan.Precedes := by
  induction changes generalizing start offset with
  | nil => exact List.isChain_singleton _
  | cons c rest ih =>
    obtain ⟨change, next⟩ := c
    obtain ⟨hoffset, hstart, hrest⟩ := h
    have hnext := hrest.natAbs_lt
    rw [localSpansFrom, List.isChain_cons]
    refine ⟨fun b hb shown => ?_, ih hrest⟩
    rw [head?_localSpansFrom] at hb
    obtain rfl := Option.some.inj hb
    simp only [LocalSpan.contains_mk_iff, LocalSpan.hasBegun_iff, LocalSpan.isOver_iff, Option.mem_def,
      Option.some.injEq, forall_eq', exists_eq_left', Option.map_eq_some_iff]
    refine ⟨fun h s hs => ?_, ?_, fun ha hb => by omega⟩
    · have := hstart s hs
      omega
    · rintro ⟨_, ⟨d, hd, rfl⟩, hover⟩
      have := hrest.le_of_head? rfl hd
      omega

/-- A span is over before the one behind the next begins. -/
theorem isOver_of_infix {changes : List (Int × Int)} {start : Option Int} {offset : Int}
    (h : Regular start offset changes) {a b c : LocalSpan} (hrow : [a, b, c] <:+: localSpansFrom start offset changes)
    {shown : Int} (hbegun : c.hasBegun shown = true) : a.isOver shown = true := by
  induction changes generalizing start offset with
  | nil =>
    have := hrow.length_le
    simp [localSpansFrom] at this
  | cons d rest ih =>
    obtain ⟨change, next⟩ := d
    obtain ⟨hoffset, -, hrest⟩ := h
    rw [localSpansFrom, List.infix_cons_iff] at hrow
    rcases hrow with hprefix | hrow
    · rw [List.cons_prefix_cons] at hprefix
      obtain ⟨rfl, hprefix⟩ := hprefix
      rcases rest with _ | ⟨⟨change', next'⟩, rest⟩
      · have := hprefix.length_le
        simp [localSpansFrom] at this
      · obtain ⟨-, hchange, hrest⟩ := hrest
        have hnext := hrest.natAbs_lt
        have hlate := hchange change rfl
        rw [localSpansFrom, List.cons_prefix_cons] at hprefix
        obtain ⟨-, tail, htail⟩ := hprefix
        have hhead : some c = _ := (congrArg List.head? htail).trans (head?_localSpansFrom _ _ _)
        obtain rfl := Option.some.inj hhead
        rw [LocalSpan.hasBegun_iff] at hbegun
        have hlater := hbegun change' rfl
        exact LocalSpan.isOver_iff.2 ⟨change + offset, rfl, by omega⟩
    · exact ih hrest hrow

theorem pairwise_localSpans {z : Zone} (hz : z.WithinDay) (hspaced : z.Spaced) :
    z.localSpans.Pairwise LocalSpan.Precedes :=
  List.isChain_iff_pairwise.1 (isChain_localSpansFrom (regular_changes.2 ⟨hz, hspaced⟩))

/-! ### The search -/

section Search

variable {spans : List LocalSpan} {shown : Int} {low high i : Nat}

/-- What is found contains the time. -/
theorem contains_of_search (h : search spans shown low high = some i) :
    ∃ span, spans[i]? = some span ∧ span.contains shown = true := by
  fun_induction search spans shown low high with
  | case1 => cases h
  | case2 low high hlt span hspan heq =>
    obtain rfl := Option.some.inj h
    exact ⟨span, hspan, LocalSpan.compare_eq_eq_iff.1 heq⟩
  | case3 low high hlt span hspan heq ih => exact ih h
  | case4 low high hlt span hspan heq ih => exact ih h
  | case5 => cases h

theorem precedes_of_lt (hspans : spans.Pairwise LocalSpan.Precedes) {j : Nat} (hij : i < j) {a b : LocalSpan}
    (ha : spans[i]? = some a) (hb : spans[j]? = some b) : a.Precedes b := by
  obtain ⟨hi, rfl⟩ := List.getElem?_eq_some_iff.1 ha
  obtain ⟨hj, rfl⟩ := List.getElem?_eq_some_iff.1 hb
  exact List.pairwise_iff_getElem.1 hspans i j hi hj hij

/-- Where the spans are in order, nothing is found only if none of them contains the time. -/
theorem not_contains_of_search (hspans : spans.Pairwise LocalSpan.Precedes) (hhigh : high ≤ spans.length)
    (h : search spans shown low high = none) (hlow : low ≤ i) (hi : i < high) {span : LocalSpan}
    (hspan : spans[i]? = some span) : ¬span.contains shown = true := by
  fun_induction search spans shown low high with
  | case1 low high hlt hmiddle =>
    rw [List.getElem?_eq_none_iff] at hmiddle
    omega
  | case2 => cases h
  | case3 low high hlt middle hmiddle hgt ih =>
    -- the middle one has not begun, nor has any behind it
    have hbegun := LocalSpan.compare_eq_gt_iff.1 hgt
    rcases Nat.lt_trichotomy i (low + (high - low) / 2) with hbefore | rfl | hbehind
    · exact ih (by omega) h hlow hbefore
    · obtain rfl := Option.some.inj (hspan.symm.trans hmiddle)
      exact fun hcontains => hbegun (LocalSpan.contains_iff.1 hcontains).1
    · have hprecedes := precedes_of_lt hspans hbehind hmiddle hspan
      exact fun hcontains => hbegun ((hprecedes shown).1 (LocalSpan.contains_iff.1 hcontains).1)
  | case4 low high hlt middle hmiddle hbefore ih =>
    -- the middle one is over, and so is any before it
    have hover := (LocalSpan.compare_eq_lt_iff.1 hbefore).2
    rcases Nat.lt_trichotomy i (low + (high - low) / 2) with hbefore | rfl | hbehind
    · have hprecedes := precedes_of_lt hspans hbefore hspan hmiddle
      exact fun hcontains => (LocalSpan.contains_iff.1 hcontains).2 ((hprecedes shown).2.1 hover)
    · obtain rfl := Option.some.inj (hspan.symm.trans hmiddle)
      exact fun hcontains => (LocalSpan.contains_iff.1 hcontains).2 hover
    · exact ih hhigh h hbehind hi
  | case5 => omega

end Search

/-! ### The first span -/

/-- A span contains a time, and none before it does. -/
def IsFirst (spans : List LocalSpan) (shown : Int) (span : LocalSpan) : Prop :=
  ∃ before behind, spans = before ++ span :: behind ∧ span.contains shown = true ∧
    ∀ s ∈ before, ¬s.contains shown = true

/-- A span is the first if the one before it does not contain the time. -/
theorem IsFirst.of_getLast? {before behind : List LocalSpan} {span : LocalSpan} {shown : Int}
    (hspans : (before ++ span :: behind).Pairwise LocalSpan.Precedes) (hspan : span.contains shown = true)
    (hlast : ∀ s ∈ before.getLast?, ¬s.contains shown = true) : IsFirst (before ++ span :: behind) shown span := by
  refine ⟨before, behind, rfl, hspan, fun s hs hcontains => ?_⟩
  rcases List.eq_nil_or_concat' before with rfl | ⟨before, last, rfl⟩
  · cases hs
  · have hlast' := hlast last (by simp)
    rcases List.mem_append.1 hs with hs | hs
    · -- the last one is between two that contain the time
      rw [List.append_assoc, List.singleton_append, List.pairwise_append] at hspans
      obtain ⟨-, hbehind, hacross⟩ := hspans
      have hfirst := hacross s hs last List.mem_cons_self
      have hsecond := (List.pairwise_cons.1 hbehind).1 span List.mem_cons_self
      exact hlast' (hfirst.contains hsecond hcontains hspan)
    · obtain rfl := List.mem_singleton.1 hs
      exact hlast' hcontains

/-- The first span that contains a time leads to the earliest instant. -/
theorem IsFirst.earliest {z : Zone} (hz : z.WithinDay) (hspaced : z.Spaced) {shown : Int} {span : LocalSpan}
    (h : IsFirst z.localSpans shown span) : Earliest (z.Shows shown) (some (shown - span.offset)) := by
  obtain ⟨before, behind, hspans, hspan, hbefore⟩ := h
  have hpairwise := pairwise_localSpans hz hspaced
  rw [hspans, List.pairwise_append, List.pairwise_cons] at hpairwise
  refine ⟨(shows_iff hz hspaced).2 ⟨span, by simp [hspans], hspan, rfl⟩, fun second hsecond => ?_⟩
  obtain ⟨other, hother, hcontains, rfl⟩ := (shows_iff hz hspaced).1 hsecond
  rw [hspans, List.mem_append, List.mem_cons] at hother
  rcases hother with hother | rfl | hother
  · exact absurd hcontains (hbefore other hother)
  · exact Int.le_refl _
  · have hlt := (hpairwise.2.1.1 other hother shown).2.2 hspan hcontains
    omega

/-! ### The offsets of a time -/

namespace Mapped

variable {α β : Type}

def toList : Mapped α → List α
  | none => []
  | single a => [a]
  | ambiguous a b => [a, b]

theorem earliest_filterMap {f : α → Option β} {g : α → β} {m : Mapped α} (h : ∀ a ∈ m.toList, f a = some (g a)) :
    (m.filterMap f).earliest = m.earliest.map g := by
  cases m with
  | none => rfl
  | single a =>
    rw [filterMap, h a (by simp [toList])]
    rfl
  | ambiguous a b =>
    rw [filterMap, h a (by simp [toList]), h b (by simp [toList])]
    rfl

theorem exists_of_earliest_filterMap {f : α → Option β} {m : Mapped α} {b : β}
    (h : (m.filterMap f).earliest = some b) : ∃ a ∈ m.toList, f a = some b := by
  cases m with
  | none => cases h
  | single a =>
    cases ha : f a with
    | none => simp [filterMap, ha, earliest] at h
    | some a' => exact ⟨a, by simp [toList], by simpa [filterMap, ha, earliest] using h⟩
  | ambiguous a a' =>
    rw [filterMap] at h
    split at h
    · exact ⟨a, by simp [toList], by simpa [*, earliest] using h⟩
    · cases h

end Mapped

/-- A time stands for nothing, or for the offset of the first span that contains it and perhaps that of another. -/
inductive Finds (spans : List LocalSpan) (shown : Int) : Mapped Int → Prop where
  | none (h : ∀ span ∈ spans, ¬span.contains shown = true) : Finds spans shown .none
  | single {span : LocalSpan} (h : IsFirst spans shown span) : Finds spans shown (.single span.offset)
  | ambiguous {span span' : LocalSpan} (h : IsFirst spans shown span) (hmem : span' ∈ spans)
      (h' : span'.contains shown = true) : Finds spans shown (.ambiguous span.offset span'.offset)

/-- If a span contains the time, the first that does is it or the one before it. -/
theorem finds_offsetsFound {before behind : List LocalSpan} {span : LocalSpan} {shown : Int}
    (hspans : (before ++ span :: behind).Pairwise LocalSpan.Precedes)
    (hthree : ∀ a b c, [a, b, c] <:+: before ++ span :: behind → c.hasBegun shown = true → a.isOver shown = true)
    (hspan : span.contains shown = true) :
    Finds (before ++ span :: behind) shown (offsetsFound shown before (span :: behind)) := by
  rw [offsetsFound]
  split
  · -- the one before contains the time too, and the one before that is over
    rename_i _ _ last hlast
    obtain ⟨hlast, hcontains⟩ := Option.filter_eq_some_iff.1 hlast
    obtain ⟨front, rfl⟩ := List.getLast?_eq_some_iff.1 hlast
    refine .ambiguous ?_ (by simp) hspan
    rw [List.append_assoc, List.singleton_append] at hspans hthree ⊢
    refine .of_getLast? hspans hcontains fun s hs hfirst => ?_
    obtain ⟨front, rfl⟩ := List.getLast?_eq_some_iff.1 hs
    have hover := hthree s last span ⟨front, behind, by simp⟩ (LocalSpan.contains_iff.1 hspan).1
    exact (LocalSpan.contains_iff.1 hfirst).2 hover
  · rename_i next hlast hnext
    obtain ⟨hnext, hcontains⟩ := Option.filter_eq_some_iff.1 hnext
    refine .ambiguous (.of_getLast? hspans hspan ?_) (by simp [List.mem_of_head? hnext]) hcontains
    simpa using hlast
  · rename_i hlast _
    refine .single (.of_getLast? hspans hspan ?_)
    simpa using hlast

theorem finds_offsetsShowing {z : Zone} (hz : z.WithinDay) (hspaced : z.Spaced) (shown : Int) :
    Finds z.localSpans shown (z.offsetsShowing shown) := by
  have hpairwise := pairwise_localSpans hz hspaced
  rw [offsetsShowing]
  split
  · rename_i hnone
    refine .none fun span hspan => ?_
    obtain ⟨i, hi⟩ := List.mem_iff_getElem?.1 hspan
    have hlt := (List.getElem?_eq_some_iff.1 hi).1
    exact not_contains_of_search hpairwise (Nat.le_refl _) hnone (Nat.zero_le i) hlt hi
  · rename_i i hfound
    obtain ⟨span, hspan, hcontains⟩ := contains_of_search hfound
    rw [← List.head?_drop, List.head?_eq_some_iff] at hspan
    obtain ⟨behind, hdrop⟩ := hspan
    have hsplit : z.localSpans = z.localSpans.take i ++ span :: behind := by rw [← hdrop, List.take_append_drop]
    have hthree a b c (hrow : [a, b, c] <:+: z.localSpans) (hbegun : c.hasBegun shown = true) :
        a.isOver shown = true := isOver_of_infix (regular_changes.2 ⟨hz, hspaced⟩) hrow hbegun
    rw [hdrop]
    generalize z.localSpans.take i = before at hsplit
    rw [hsplit] at hpairwise hthree ⊢
    exact finds_offsetsFound hpairwise hthree hcontains

namespace Finds

variable {z : Zone} {shown : Int} {m : Mapped Int}

/-- The clock shows the time at every offset that is found for it. -/
theorem shows (h : Finds z.localSpans shown m) (hz : z.WithinDay) (hspaced : z.Spaced) :
    ∀ offset ∈ m.toList, z.Shows shown (shown - offset) := by
  cases h with
  | none h => exact fun _ hoffset => nomatch hoffset
  | single h =>
    rintro offset hoffset
    obtain rfl := List.mem_singleton.1 hoffset
    exact (h.earliest hz hspaced).1
  | ambiguous h hmem h' =>
    rintro offset hoffset
    rcases List.mem_cons.1 hoffset with rfl | hoffset
    · exact (h.earliest hz hspaced).1
    · obtain rfl := List.mem_singleton.1 hoffset
      exact (shows_iff hz hspaced).2 ⟨_, hmem, h', rfl⟩

/-- The first offset that is found leads to the earliest instant at which the clock shows the time. -/
theorem earliest (h : Finds z.localSpans shown m) (hz : z.WithinDay) (hspaced : z.Spaced) :
    Earliest (z.Shows shown) (m.earliest.map (shown - ·)) := by
  cases h with
  | none h =>
    intro second hsecond
    obtain ⟨span, hmem, hcontains, -⟩ := (shows_iff hz hspaced).1 hsecond
    exact h span hmem hcontains
  | single h => exact h.earliest hz hspaced
  | ambiguous h => exact h.earliest hz hspaced

end Finds

theorem offset_of_mem_localSpansFrom {changes : List (Int × Int)} {start : Option Int} {offset : Int}
    {span : LocalSpan} (h : span ∈ localSpansFrom start offset changes) :
    span.offset = offset ∨ ∃ c ∈ changes, c.2 = span.offset := by
  induction changes generalizing start offset with
  | nil =>
    obtain rfl := List.mem_singleton.1 h
    exact .inl rfl
  | cons c rest ih =>
    rcases List.mem_cons.1 h with rfl | h
    · exact .inl rfl
    · rcases ih h with hnext | ⟨d, hd, hoffset⟩
      · exact .inr ⟨c, List.mem_cons_self, hnext.symm⟩
      · exact .inr ⟨d, List.mem_cons_of_mem _ hd, hoffset⟩

theorem exists_of_mem_offsetsFound {before spans : List LocalSpan} {shown offset : Int}
    (h : offset ∈ (offsetsFound shown before spans).toList) : ∃ span ∈ before ++ spans, span.offset = offset := by
  cases spans with
  | nil => cases h
  | cons span behind =>
    rw [offsetsFound] at h
    split at h
    · rename_i _ _ last hlast
      have hmem := List.mem_of_getLast? (Option.filter_eq_some_iff.1 hlast).1
      rcases List.mem_cons.1 h with rfl | h
      · exact ⟨last, by simp [hmem], rfl⟩
      · exact ⟨span, by simp, (List.mem_singleton.1 h).symm⟩
    · rename_i next _ hnext
      have hmem := List.mem_of_head? (Option.filter_eq_some_iff.1 hnext).1
      rcases List.mem_cons.1 h with rfl | h
      · exact ⟨span, by simp, rfl⟩
      · exact ⟨next, by simp [hmem], (List.mem_singleton.1 h).symm⟩
    · exact ⟨span, by simp, (List.mem_singleton.1 h).symm⟩

/-- The offsets that are found are some that the clock had. -/
theorem mem_offsets_of_offsetsShowing {z : Zone} {shown offset : Int}
    (h : offset ∈ (z.offsetsShowing shown).toList) : offset ∈ z.offsets := by
  rw [offsetsShowing] at h
  split at h
  · cases h
  · obtain ⟨span, hspan, rfl⟩ := exists_of_mem_offsetsFound h
    rw [List.take_append_drop] at hspan
    exact mem_offsets.2 (offset_of_mem_localSpansFrom hspan)

end Zone

end Reshape
