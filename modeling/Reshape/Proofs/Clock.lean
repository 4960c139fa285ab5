/-
What the clock of a zone shows, and when.

A time that the clock skips is in none of the spans between its changes, and one that it shows twice is in two.  Every
zone with a name is changed so seldom that what is found for a time is the earliest instant at which it is shown.

* `Zone.withinDay_spaced_of_named` — every zone with a name keeps within a day of UTC, and two days lie between its
  changes;
* `Zone.ofWallClock?_earliest` — times of the years around ours, read on the clock of a zone.
-/
import Reshape.Proofs.Calendar
import Reshape.Proofs.LocalSpans
import Reshape.Time.Zone.Named

namespace Reshape

open Time

/-- What the clock at the place of a timestamp shows. -/
def Timestamp.shown (t : Timestamp) : WallClock :=
  ⟨t.localSecond, t.nano⟩

/-- The year that a clock shows. -/
def Time.WallClock.year (clock : WallClock) : Int :=
  (civilFromDays (clock.second / 86400)).year

namespace Zone

/-! ### Zones with names -/

theorem withinDay_spaced_fixed {name : String} {offset : Int} (h : offset.natAbs < 86400) :
    (fixed name offset).WithinDay ∧ (fixed name offset).Spaced :=
  regular_changes.1 h

/-- The changes of a table, given its characters: a text is not taken apart again for each of them. -/
theorem withinDay_spaced_ofTable {name table : String} {first : Int} {year : Nat} {rules : List Recurrence}
    {cs : List Char} (htable : table.toList = cs)
    (h : Regular none first (((cs.splitBy fun a b => (a == ' ' || a == '\n') == (b == ' ' || b == '\n')).filter
        fun word => word.contains ':').map (fun word =>
          (readInt (word.takeWhile (· != ':')), readInt ((word.dropWhile (· != ':')).drop 1))) ++
      recurring year rules)) :
    (ofTable name first table year rules).WithinDay ∧ (ofTable name first table year rules).Spaced := by
  rw [← regular_changes, ofTable, readChanges, htable]
  exact h

set_option maxRecDepth 100000 in
/-- The clock of every zone that there is a table of keeps within a day of UTC and is changed at most every other
day. -/
theorem withinDay_spaced_of_mem_all : ∀ z ∈ all, z.WithinDay ∧ z.Spaced := by
  have hchicago : americaChicago.WithinDay ∧ americaChicago.Spaced := ?_
  have hnewYork : americaNewYork.WithinDay ∧ americaNewYork.Spaced := ?_
  have hsaoPaulo : americaSaoPaulo.WithinDay ∧ americaSaoPaulo.Spaced := ?_
  have hcalcutta : asiaCalcutta.WithinDay ∧ asiaCalcutta.Spaced := ?_
  have hkathmandu : asiaKathmandu.WithinDay ∧ asiaKathmandu.Spaced := ?_
  have hshanghai : asiaShanghai.WithinDay ∧ asiaShanghai.Spaced := ?_
  have htokyo : asiaTokyo.WithinDay ∧ asiaTokyo.Spaced := ?_
  have hlordHowe : australiaLordHowe.WithinDay ∧ australiaLordHowe.Spaced := ?_
  have hberlin : europeBerlin.WithinDay ∧ europeBerlin.Spaced := ?_
  have hparis : europeParis.WithinDay ∧ europeParis.Spaced := ?_
  have hapia : pacificApia.WithinDay ∧ pacificApia.Spaced := ?_
  · simp only [all, List.forall_mem_cons]
    exact ⟨hchicago, hnewYork, hsaoPaulo, hcalcutta, hkathmandu, hshanghai, htokyo, hlordHowe, hberlin, hparis, hapia,
      hnewYork, withinDay_spaced_fixed (by decide), withinDay_spaced_fixed (by decide),
      withinDay_spaced_fixed (by decide), withinDay_spaced_fixed (by decide), List.forall_mem_nil _⟩
  all_goals
    refine withinDay_spaced_ofTable String.toList_ofList ?_
    decide +kernel

theorem asiaKathmandu_mem_all : asiaKathmandu ∈ all :=
  .tail _ (.tail _ (.tail _ (.tail _ (.head _))))

theorem withinDay_asiaKathmandu : asiaKathmandu.WithinDay :=
  (withinDay_spaced_of_mem_all _ asiaKathmandu_mem_all).1

theorem spaced_asiaKathmandu : asiaKathmandu.Spaced :=
  (withinDay_spaced_of_mem_all _ asiaKathmandu_mem_all).2

/-- The same holds of every zone with a name, which is that of the host or one that there is a table of. -/
theorem withinDay_spaced_of_named {name : String} {z : Zone} (h : named name = .ok z) : z.WithinDay ∧ z.Spaced := by
  unfold named at h
  dsimp only at h
  split at h
  · obtain rfl := Except.ok.inj h
    exact withinDay_spaced_fixed (by decide)
  · split at h
    · rename_i z' hfind
      obtain rfl := Except.ok.inj h
      exact withinDay_spaced_of_mem_all _ (List.mem_of_find?_eq_some hfind)
    · cases h

/-! ### Times shown -/

theorem shown_ofInstant_eq_iff {z : Zone} {t : Timestamp} {clock : WallClock} :
    (z.ofInstant t).shown = clock ↔ z.Shows clock.second t.second ∧ t.nano = clock.nano := by
  obtain ⟨second, nano⟩ := clock
  rw [Timestamp.shown, WallClock.mk.injEq]
  rfl

/-- A clock within a day of UTC shows the years around ours at instants that timestamps reach. -/
theorem Shows.mem_range {z : Zone} {clock : WallClock} {second : Int} (h : z.Shows clock.second second)
    (hz : z.WithinDay) (hyear : 1850 ≤ clock.year ∧ clock.year ≤ 2050) :
    Timestamp.leastSecond ≤ second ∧ second ≤ Timestamp.greatestSecond := by
  have hoffset := hz _ (z.offsetAt_mem second)
  obtain ⟨era, year, month, day, hday⟩ := exists_civilDay (clock.second / 86400)
  obtain ⟨hsum, hyear', hmonth, hday0, -, ⟨hle, -⟩, hdate, -, -⟩ := hday
  rw [WallClock.year] at hyear
  rw [Shows] at h
  have hleast : Timestamp.leastSecond = -8334601228800 := by decide +kernel
  have hgreatest : Timestamp.greatestSecond = 8210266876799 := by decide +kernel
  rw [startOfYear, startOfMonth] at hsum
  rw [startOfMonth] at hle
  split at hdate <;> omega

/-- A time that is read is shown where it was read. -/
theorem shown_of_ofWallClock? {z : Zone} {clock : WallClock} {t : Timestamp} (h : z.ofWallClock? clock = some t) :
    t.shown = clock ∧ t.offset ∈ z.offsets := by
  obtain ⟨offset, hoffset, ht⟩ := Mapped.exists_of_earliest_filterMap h
  rw [instant?] at ht
  split at ht
  · obtain rfl := Option.some.inj ht
    refine ⟨?_, mem_offsets_of_offsetsShowing hoffset⟩
    rw [Timestamp.shown, Timestamp.localSecond, Int.sub_add_cancel]
  · cases ht

/-- In the years around ours every instant that is found is one that timestamps reach. -/
theorem ofWallClock?_eq {z : Zone} (hz : z.WithinDay) (hspaced : z.Spaced) {clock : WallClock}
    (hyear : 1850 ≤ clock.year ∧ clock.year ≤ 2050) :
    z.ofWallClock? clock =
      (z.offsetsShowing clock.second).earliest.map fun offset => ⟨clock.second - offset, clock.nano, offset⟩ := by
  refine Mapped.earliest_filterMap fun offset hoffset => ?_
  have hshows := (finds_offsetsShowing hz hspaced clock.second).shows hz hspaced offset hoffset
  rw [instant?, if_pos (hshows.mem_range hz hyear)]

/-- Times of the years around ours on the clock of a zone.  One is read as an instant exactly if the clock ever shows
it.  At that instant the clock shows this time, with the offset that was read, and it does at none before.  To show an
instant on the clock is to keep it. -/
theorem ofWallClock?_earliest {z : Zone} (hz : z.WithinDay) (hspaced : z.Spaced) {clock : WallClock}
    (hyear : 1850 ≤ clock.year ∧ clock.year ≤ 2050) :
    ((z.ofWallClock? clock).isSome = true ↔ ∃ t, (z.ofInstant t).shown = clock) ∧
      (∀ t, z.ofWallClock? clock = some t →
        (z.ofInstant t).shown = clock ∧ (z.ofInstant t).offset = t.offset ∧
          ∀ t', (z.ofInstant t').shown = clock → t'.isBefore t = false) ∧
      ∀ t, (z.ofInstant t).sameInstant t = true := by
  have hearliest := (finds_offsetsShowing hz hspaced clock.second).earliest hz hspaced
  rw [ofWallClock?_eq hz hspaced hyear, ← and_assoc]
  refine ⟨?_, fun t => by simp [ofInstant, Timestamp.withOffset, Timestamp.sameInstant]⟩
  cases hfound : (z.offsetsShowing clock.second).earliest with
  | none =>
    rw [hfound] at hearliest
    have hnone : ¬∃ t, (z.ofInstant t).shown = clock :=
      fun ⟨t, ht⟩ => hearliest t.second (shown_ofInstant_eq_iff.1 ht).1
    simp [hnone]
  | some offset =>
    rw [hfound, Option.map_some] at hearliest
    obtain ⟨hshows, hleast⟩ := hearliest
    have hshown : (z.ofInstant ⟨clock.second - offset, clock.nano, offset⟩).shown = clock :=
      shown_ofInstant_eq_iff.2 ⟨hshows, rfl⟩
    have hoffset : z.offsetAt (clock.second - offset) = offset := by
      rw [Shows] at hshows
      omega
    refine ⟨by simpa using ⟨_, hshown⟩, fun t ht => ?_⟩
    obtain rfl := Option.some.inj ht
    refine ⟨hshown, hoffset, fun t' ht' => ?_⟩
    -- of two instants with the same nanoseconds the one with the smaller second is before the other
    obtain ⟨hshows', hnano⟩ := shown_ofInstant_eq_iff.1 ht'
    have hle : clock.second - offset ≤ t'.second := hleast t'.second hshows'
    simp only [Timestamp.isBefore, hnano, Nat.lt_irrefl, decide_false, Bool.and_false, Bool.or_false,
      decide_eq_false_iff_not]
    omega

/-- As the year 1920 began the clock of Kathmandu was put back by some minutes, and showed the last of 1919 twice. -/
theorem ofWallClock?_earliest_asiaKathmandu :
    let clock : WallClock := ⟨-1577923500, 0⟩
    asiaKathmandu.WithinDay ∧ asiaKathmandu.Spaced ∧ (1850 ≤ clock.year ∧ clock.year ≤ 2050) ∧
      asiaKathmandu.ofWallClock? clock = some ⟨-1577943976, 0, 20476⟩ ∧
      (asiaKathmandu.ofInstant ⟨-1577943300, 0, 0⟩).shown = clock ∧
      Timestamp.isBefore ⟨-1577943300, 0, 0⟩ ⟨-1577943976, 0, 20476⟩ = false := by
  intro clock
  have hyear : 1850 ≤ clock.year ∧ clock.year ≤ 2050 := by decide +kernel
  have hread : asiaKathmandu.ofWallClock? clock = some ⟨-1577943976, 0, 20476⟩ := by decide +kernel
  have hlater : (asiaKathmandu.ofInstant ⟨-1577943300, 0, 0⟩).shown = clock := by decide +kernel
  have h := ofWallClock?_earliest withinDay_asiaKathmandu spaced_asiaKathmandu hyear
  exact ⟨withinDay_asiaKathmandu, spaced_asiaKathmandu, hyear, hread, hlater, (h.2.1 _ hread).2.2 _ hlater⟩

end Zone

end Reshape
