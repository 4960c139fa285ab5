/-
What a text says of a time.

However the text is matched, its nanoseconds are those of one second, and a leap second is one that it names.  So what
the fields of a text determine is a time that clocks show.

* `Ensures` — a property of all that a computation ends well with, carried through its steps;
* `bounded_readClues` — what every reader of a field keeps;
* `sound_dateTime`, `sound_instant` — the clock and the instant that fields determine;
* `Function.sound_timestampOf` — the timestamp that a text shows.
-/
import Reshape.Function.Time
import Reshape.Proofs.Internet

namespace Reshape

open Time

/-- All that a computation ends well with has the property. -/
def Ensures {ε α : Type} (P : α → Prop) (x : Except ε α) : Prop :=
  ∀ a, x = .ok a → P a

namespace Ensures

variable {ε α β : Type} {P : α → Prop} {Q : β → Prop} {x y : Except ε α} {f : α → Except ε β}

theorem pure {a : α} (h : P a) : Ensures P (Pure.pure a : Except ε α) := by
  intro b hb
  obtain rfl := Except.ok.inj hb
  exact h

theorem ok {a : α} (h : P a) : Ensures P (.ok a : Except ε α) :=
  pure h

theorem error (e : ε) : Ensures P (.error e : Except ε α) :=
  fun _ h => nomatch h

theorem bind (hx : Ensures P x) (hf : ∀ a, P a → Ensures Q (f a)) : Ensures Q (x >>= f) := by
  intro b hb
  obtain ⟨a, ha, hb⟩ := bind_eq_ok.1 hb
  exact hf a (hx a ha) b hb

theorem of_next (hf : ∀ a, Ensures Q (f a)) : Ensures Q (x >>= f) := by
  intro b hb
  obtain ⟨a, -, hb⟩ := bind_eq_ok.1 hb
  exact hf a b hb

theorem ite {p : Prop} [Decidable p] (hx : Ensures P x) (hy : Ensures P y) : Ensures P (if p then x else y) := by
  split
  · exact hx
  · exact hy

end Ensures

namespace Time

/-! ### Fields of a text -/

/-- Nanoseconds, if they are known, are those of one second. -/
def Clues.Bounded (c : Clues) : Prop :=
  ∀ n ∈ c.nano, 0 ≤ n ∧ n ≤ 999999999

section

variable {c : Clues} {s : List Char}

theorem ensures_within (lo hi v : Int) : Ensures (fun v => lo ≤ v ∧ v ≤ hi) (within lo hi v) := by
  unfold within
  split
  · exact .ok ‹_›
  · exact .error _

theorem ensures_agree (old : Option Int) (v : Int) : Ensures (fun new => new = some v) (agree old v) := by
  unfold agree
  split
  · split
    · rename_i hv
      exact .ok (congrArg some hv)
    · exact .error _
  · exact .ok rfl

theorem bounded_setNano (c : Clues) (v : Int) : Ensures Clues.Bounded (c.setNano v) := by
  refine .bind (ensures_within _ _ v) fun v hv => .bind (ensures_agree c.nano v) fun new hnew => .pure ?_
  intro n hn
  obtain rfl := hnew
  obtain rfl := Option.some.inj hn
  exact hv

/-- No other field touches the nanoseconds. -/
theorem bounded_note (v : Int) (field : NumericField) (hc : c.Bounded) :
    Ensures Clues.Bounded (Pattern.note c v field) := by
  cases field with
  | nano => exact bounded_setNano c v
  | dayFromSunday => exact .ite (.of_next fun _ => .of_next fun _ => .pure hc) (.error _)
  | hour => exact .of_next fun _ => .of_next fun _ => .of_next fun _ => .pure hc
  | unix => exact .of_next fun _ => .pure hc
  | _ => exact .of_next fun _ => .of_next fun _ => .pure hc

theorem bounded_setHalfDay (afternoon : Bool) (hc : c.Bounded) : Ensures Clues.Bounded (c.setHalfDay afternoon) :=
  .of_next fun _ => .pure hc

theorem bounded_setOffset (v : Int) (hc : c.Bounded) : Ensures Clues.Bounded (c.setOffset v) :=
  .of_next fun _ => .pure hc

theorem bounded_setWeekday (v : Int) (hc : c.Bounded) : Ensures Clues.Bounded (c.setWeekday v) :=
  .of_next fun _ => .of_next fun _ => .pure hc

/-- What a reader goes on with. -/
abbrev BoundedStep (step : Pattern.Step) : Prop :=
  Ensures (fun r : Clues × List Char => r.1.Bounded) step

theorem bounded_readNumber (field : NumericField) (s : List Char) (hc : c.Bounded) :
    BoundedStep (Pattern.readNumber field c s) := by
  have hnote (v : Int) (s : List Char) : BoundedStep (do return (← Pattern.note c v field, s)) :=
    .bind (bounded_note v field hc) fun c hc => .pure hc
  unfold Pattern.readNumber
  dsimp only
  split
  · exact .of_next fun r => .of_next fun r => hnote r.1 r.2
  · exact .of_next fun r => hnote r.1 r.2
  · exact .of_next fun r => hnote r.1 r.2

theorem bounded_readFraction (scan : List Char → Except Problem (Int × List Char)) (s : List Char) (hc : c.Bounded) :
    BoundedStep (Pattern.readFraction scan c s) := by
  unfold Pattern.readFraction
  split
  · exact .of_next fun r => .bind (bounded_setNano c r.1) fun c hc => .pure hc
  · exact .ok hc

theorem bounded_readHalfDay (s : List Char) (hc : c.Bounded) : BoundedStep (Pattern.readHalfDay c s) := by
  unfold Pattern.readHalfDay
  refine .ite (.error _) ?_
  split
  · exact .bind (bounded_setHalfDay false hc) fun c hc => .pure hc
  · exact .bind (bounded_setHalfDay true hc) fun c hc => .pure hc
  · exact .error _

theorem bounded_readInternet (s : List Char) (hc : c.Bounded) : BoundedStep (Pattern.readInternet c s) := by
  have hafter {c : Clues} (mark : Char) (field : NumericField) (s : List Char) (hc : c.Bounded) :
      BoundedStep (Pattern.readNumberAfter mark field c s) :=
    .of_next fun s => bounded_readNumber field s hc
  unfold Pattern.readInternet
  refine .bind (bounded_readNumber _ _ hc) fun ⟨c, s⟩ hc => .bind (hafter _ _ _ hc) fun ⟨c, s⟩ hc =>
    .bind (hafter _ _ _ hc) fun ⟨c, s⟩ hc => ?_
  dsimp only
  split
  · exact .error _
  · refine .ite (.of_next fun s => ?_) (.error _)
    refine .bind (bounded_readNumber _ _ hc) fun ⟨c, s⟩ hc => .bind (hafter _ _ _ hc) fun ⟨c, s⟩ hc =>
      .bind (hafter _ _ _ hc) fun ⟨c, s⟩ hc => .bind (bounded_readFraction _ _ hc) fun ⟨c, s⟩ hc => ?_
    have hoffset (r : Int × List Char) : BoundedStep (do return (← c.setOffset r.1, r.2)) :=
      .bind (bounded_setOffset r.1 hc) fun c hc => .pure hc
    exact .ite (.of_next hoffset) (.of_next hoffset)

theorem bounded_readText (field : TextField) (s : List Char) (hc : c.Bounded) :
    BoundedStep (Pattern.readText field c s) := by
  cases field with
  | shortMonth | longMonth =>
    exact .of_next fun r => .bind (bounded_note (r.1 + 1) .month hc) fun c hc => .pure hc
  | shortWeekday | longWeekday => exact .of_next fun r => .bind (bounded_setWeekday r.1 hc) fun c hc => .pure hc
  | lowerHalfDay | upperHalfDay => exact bounded_readHalfDay s hc
  | fraction | pointFraction digits => exact bounded_readFraction _ s hc
  | bareFraction digits => exact .of_next fun r => .bind (bounded_setNano c r.1) fun c hc => .pure hc
  | zoneName => exact .ok hc
  | offset style => exact .of_next fun r => .bind (bounded_setOffset r.1 hc) fun c hc => .pure hc
  | internet => exact bounded_readInternet s hc

theorem bounded_readItem (s : List Char) (item : PatternItem) (hc : c.Bounded) :
    BoundedStep (Pattern.readItem c s item) := by
  cases item with
  | literal text => exact .of_next fun s => .pure hc
  | blank text => exact .ok hc
  | number field pad => exact bounded_readNumber field s hc
  | text field => exact bounded_readText field s hc

/-- Whatever a text says, its nanoseconds are those of one second. -/
theorem bounded_readClues (items : List PatternItem) (s : List Char) :
    Ensures Clues.Bounded (Pattern.readClues items s) := by
  have hread : ∀ (items : List PatternItem) (r : Clues × List Char), r.1.Bounded →
      BoundedStep (items.foldlM (fun r item => Pattern.readItem r.1 r.2 item) r) := by
    intro items
    induction items with
    | nil => exact fun r hr => .pure hr
    | cons item items ih =>
      intro r hr
      rw [List.foldlM_cons]
      exact .bind (bounded_readItem r.2 item hr) ih
  refine .bind (hread items ({}, s) fun n hn => ?_) fun r hr => .ite (.pure hr) (.error _)
  cases hn

/-! ### Times of fields -/

/-- Seconds of a day and nanoseconds that a clock may show. -/
def SoundTime (time : Int × Nat) : Prop :=
  time.2 < 2000000000 ∧ (1000000000 ≤ time.2 → time.1 % 60 = 59)

theorem sound_time (hc : c.Bounded) : Ensures SoundTime c.time := by
  have hend (half hour minute nano : Int) (hnano : 0 ≤ nano ∧ nano ≤ 999999999) (second : Int) :
      SoundTime
        ((half * 12 + hour) * 3600 + minute * 60 +
            (if second = 60 then ((59 : Int), (1000000000 : Int)) else (second, 0)).1,
          (nano + (if second = 60 then ((59 : Int), (1000000000 : Int)) else (second, 0)).2).toNat) := by
    split <;> constructor <;> dsimp only <;> omega
  unfold Clues.time
  refine .of_next fun half => .of_next fun hour => .of_next fun minute => ?_
  dsimp only
  split
  · rename_i n hn
    exact .ite (.pure (hend half hour minute n (hc n hn) _)) (.error _)
  · exact .pure (hend half hour minute 0 (by omega) _)

theorem sound_wallClock (d : Date) {time : Int × Nat} (h : SoundTime time) : (Clues.wallClock d time).Sound := by
  obtain ⟨hlt, hleap⟩ := h
  refine ⟨hlt, fun hle => ?_⟩
  have hlast := hleap hle
  show (daysFromCivil d * 86400 + time.1) % 60 = 59
  omega

theorem bounded_fillFrom (t : Timestamp) (hc : c.Bounded) : Ensures Clues.Bounded (c.fillFrom t) := by
  have hfields {c : Clues} (t : Timestamp) (hc : c.Bounded) : Ensures Clues.Bounded (do
      let c ← c.setYear t.date.year
      let c ← c.setOrdinal t.date.ordinal
      let c ← c.setHour t.hour
      c.setMinute t.minute) :=
    .bind (bounded_note _ .year hc) fun c hc => .bind (bounded_note _ .ordinal hc) fun c hc =>
      .bind (bounded_note _ .hour hc) fun c hc => bounded_note _ .minute hc
  exact .ite (.ite (hfields _ hc) (.ite (hfields _ hc) (.error _)))
    (.bind (bounded_note _ .second hc) fun c hc => hfields t hc)

theorem sound_dateTime (offset : Int) (hc : c.Bounded) : Ensures WallClock.Sound (c.dateTime offset) := by
  have hpair {c : Clues} (hc : c.Bounded) : Ensures WallClock.Sound (do
      let d ← c.date
      return Clues.wallClock d (← c.time)) :=
    .of_next fun d => .bind (sound_time hc) fun time htime => .pure (sound_wallClock d htime)
  unfold Clues.dateTime
  split
  · rename_i d time hd htime
    exact .ite (.pure (sound_wallClock d (sound_time hc time htime))) (.error _)
  · split
    · exact hpair hc
    · -- the fields that are missing are those of the instant
      refine .ite (.error _) (.ite (.error _) ?_)
      split
      · exact .error _
      · exact .bind (bounded_fillFrom _ hc) fun c hc => hpair hc

theorem WallClock.Sound.timestamp {clock : WallClock} {t : Timestamp} (h : clock.Sound) (hshown : t.shown = clock)
    (hoffset : t.offset.natAbs < 86400) : t.Sound := by
  subst hshown
  exact ⟨h, hoffset⟩

theorem sound_instant (hc : c.Bounded) : Ensures Timestamp.Sound c.instant := by
  have hplace (offset : Int) : Ensures Timestamp.Sound (do
      let clock ← c.dateTime offset
      if offset.natAbs < 86400 then
        let second := clock.second - offset
        if Timestamp.leastSecond ≤ second ∧ second ≤ Timestamp.greatestSecond then
          return (⟨second, clock.nano, offset⟩ : Timestamp)
        else .error .impossible
      else .error .outOfRange) := by
    refine .bind (sound_dateTime offset hc) fun clock hclock => ?_
    dsimp only
    split
    · rename_i hoffset
      have hshown : (⟨clock.second - offset, clock.nano, offset⟩ : Timestamp).shown = clock := by
        rw [Timestamp.shown, Timestamp.localSecond, Int.sub_add_cancel]
      exact .ite (.pure (hclock.timestamp hshown hoffset)) (.error _)
    · exact .error _
  unfold Clues.instant
  dsimp only
  split
  · exact hplace _
  · exact hplace 0
  · exact .error _

end

end Time

/-! ### Timestamps of a text -/

namespace Function

theorem sound_wallClockOf (items : List PatternItem) (text : List Char) :
    Ensures WallClock.Sound (wallClockOf items text) := by
  have hclues := bounded_readClues items text
  unfold wallClockOf
  dsimp only
  split
  · rename_i clock hclock
    exact .ok ((Ensures.bind hclues fun c hc => sound_dateTime 0 hc) clock hclock)
  · split
    · exact .ok (sound_wallClock _ ⟨by decide, by decide⟩)
    · exact .error _

/-- A text shows a clock, at its own offset or at that of the zone. -/
theorem sound_timestampOf {zone : Zone} (hzone : zone.WithinDay) (items : List PatternItem) (text : List Char) :
    Ensures Timestamp.Sound (timestampOf zone items text) := by
  have hclues := bounded_readClues items text
  unfold timestampOf
  split
  · rename_i t ht
    exact .ok ((Ensures.bind hclues fun c hc => sound_instant hc) t ht)
  · -- without an offset of its own the text shows the clock of the zone
    intro t h
    obtain ⟨clock, hclock, h⟩ := bind_eq_ok.1 h
    have hsound : clock.Sound := by
      cases hread : wallClockOf items text with
      | error e => simp [hread, Except.mapError] at hclock
      | ok read =>
        rw [hread] at hclock
        obtain rfl := Except.ok.inj hclock
        exact sound_wallClockOf items text read hread
    split at h
    · rename_i t' ht'
      obtain rfl := Except.ok.inj h
      obtain ⟨hshown, hoffset⟩ := Zone.shown_of_ofWallClock? ht'
      exact hsound.timestamp hshown (hzone _ hoffset)
    · cases h

end Function

end Reshape
