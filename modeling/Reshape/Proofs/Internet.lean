/-
The text of a timestamp, and what it is read back as.

The text shows the clock to the nanosecond and the offset to the minute.  Read back, it is the time that the clock
shows at the offset that is written.  Years beyond four digits are written with a sign, which is not read.

* `Timestamp.Sound` — what holds of timestamps however they come about;
* `Timestamp.ofInternet_internet` — what a text is read back as;
* `Timestamp.exists_ofInternet_iff` — which timestamps are read back as the same instant: those that fit the form;
* `Timestamp.sound_of_ofInternet` — what is read is sound and fits.
-/
import Mathlib.Algebra.Group.Nat.Defs
import Reshape.Proofs.Clock
import Reshape.Proofs.Place
import Reshape.Proofs.Spelling
import Reshape.Text.Trim
import Reshape.Time.Internet

namespace Reshape

/-- A time as clocks show it: nanoseconds beyond those of a second are those of a leap second, which is the last of its
minute. -/
structure Time.WallClock.Sound (clock : Time.WallClock) : Prop where
  nano_lt : clock.nano < 2000000000
  leap : 1000000000 ≤ clock.nano → clock.second % 60 = 59

/-- A timestamp as programs come by it, on a clock within a day of UTC. -/
structure Timestamp.Sound (t : Timestamp) : Prop where
  shown : t.shown.Sound
  offset_lt : t.offset.natAbs < 86400

/-- The form has room for the timestamp: its year has four digits, and its offset is in minutes. -/
structure Timestamp.Fits (t : Timestamp) : Prop where
  year : 0 ≤ t.date.year ∧ t.date.year ≤ 9999
  offset : (60 : Int) ∣ t.offset

namespace Time

/-! ### Digits -/

theorem range_of_isDigit {c : Char} (h : c.isDigit = true) : 48 ≤ c.toNat ∧ c.toNat ≤ 57 := by
  simpa [Char.isDigit, UInt32.le_iff_toNat_le] using h

theorem digitsValue_padded (width n : Nat) : digitsValue (padded width n) = n := by
  have hzeros : digitsValue (List.replicate (width - (Nat.toDigits 10 n).length) '0' ++ Nat.toDigits 10 n) =
      digitsValue (Nat.toDigits 10 n) := by
    simp only [digitsValue]
    exact (Nat.ofDigitChars_append 0).trans (by rw [Nat.ofDigitChars_replicate_zero, Nat.mul_zero]; rfl)
  exact hzeros.trans (Scan.digitsValue_toDigits n)

theorem length_padded {width n : Nat} (hwidth : 0 < width) (hn : n < 10 ^ width) : (padded width n).length = width := by
  have hle := (Nat.length_toDigits_le_iff (by decide : 1 < 10) hwidth).2 hn
  rw [padded, List.length_append, List.length_replicate]
  omega

theorem isDigit_of_mem_padded {width n : Nat} {c : Char} (h : c ∈ padded width n) : c.isDigit = true := by
  rcases List.mem_append.1 h with h | h
  · rw [List.eq_of_mem_replicate h]
    rfl
  · exact Nat.isDigit_of_mem_toDigits (by decide) (by decide) h

theorem digitField_padded {width n : Nat} (hwidth : 0 < width) (hn : n < 10 ^ width) (rest : List Char) :
    Timestamp.digitField width (padded width n ++ rest) = .ok (n, rest) := by
  have hlength := length_padded hwidth hn
  have hdigits : (padded width n).all Char.isDigit = true :=
    List.all_eq_true.2 fun c hc => isDigit_of_mem_padded hc
  rw [Timestamp.digitField, List.take_left' hlength, List.drop_left' hlength]
  simp only [hlength, hdigits, decide_true, Bool.and_self, if_true, digitsValue_padded]

/-! ### Fractions -/

theorem shorterThan_false {n : Nat} {s : List Char} (h : n ≤ s.length) : Scan.shorterThan n s = false := by
  have hbytes : ∀ s : List Char, s.length ≤ Text.utf8Length s := by
    intro s
    induction s with
    | nil => exact Nat.le_refl 0
    | cons c s ih =>
      have hc := Char.utf8Size_pos c
      rw [List.length_cons, Text.utf8Length_cons]
      omega
  rw [Scan.shorterThan, decide_eq_false_iff_not, Nat.not_lt]
  exact Nat.le_trans h (hbytes s)

theorem takeWhile_padded (width n : Nat) {c : Char} (hc : c.isDigit = false) (rest : List Char) :
    (padded width n ++ c :: rest).takeWhile Char.isDigit = padded width n := by
  rw [List.takeWhile_append_of_pos fun _ h => isDigit_of_mem_padded h, List.takeWhile_cons_of_neg (by simp [hc]),
    List.append_nil]

theorem number_padded {width n : Nat} (h0 : 0 < width) (h9 : width ≤ 9) (hn : n < 10 ^ width) {c : Char}
    (hc : c.isDigit = false) (rest : List Char) :
    Scan.number 1 (some 9) (padded width n ++ c :: rest) = .ok (n, c :: rest) := by
  have hlength := length_padded h0 hn
  have hvalue : n < 10 ^ 9 := Nat.lt_of_lt_of_le hn (Nat.pow_le_pow_right (by decide) h9)
  have hbound : ¬int64Bound ≤ n := by
    rw [int64Bound]
    omega
  rw [Scan.number, shorterThan_false (by rw [List.length_append, List.length_cons]; omega)]
  simp only [Bool.false_eq_true, if_false, Option.map_some, Option.getD_some, takeWhile_padded width n hc,
    List.take_of_length_le (hlength ▸ h9), digitsValue_padded, hlength, List.drop_left' hlength]
  rw [if_neg hbound, if_neg (by omega)]

theorem fraction_padded {width n : Nat} (h0 : 0 < width) (h9 : width ≤ 9) (hn : n < 10 ^ width) {c : Char}
    (hc : c.isDigit = false) (rest : List Char) :
    Scan.fraction (padded width n ++ c :: rest) = .ok (((n * 10 ^ (9 - width) : Nat) : Int), c :: rest) := by
  have hlength : (padded width n ++ c :: rest).length - (c :: rest).length = width := by
    rw [List.length_append, length_padded h0 hn]
    omega
  rw [Scan.fraction, number_padded h0 h9 hn hc]
  simp only [bind, Except.bind, pure, Except.pure, hlength]
  rw [List.dropWhile_cons_of_neg (by simp [hc]), Int.natCast_mul]
  rfl

/-- A fraction is written in thirds of its nine digits, if at all. -/
theorem fractionText_cases {nano : Nat} (h : nano < 1000000000) :
    (nano = 0 ∧ fractionText nano = []) ∨ ∃ width n, 0 < width ∧ width ≤ 9 ∧ n < 10 ^ width ∧
      n * 10 ^ (9 - width) = nano ∧ fractionText nano = '.' :: padded width n := by
  rw [fractionText]
  split
  · exact .inl ⟨‹_›, rfl⟩
  · right
    split
    · exact ⟨3, nano / 1000000, by omega, by omega, by omega, by omega, rfl⟩
    · split
      · exact ⟨6, nano / 1000, by omega, by omega, by omega, by omega, rfl⟩
      · exact ⟨9, nano, by omega, by omega, by omega, by omega, rfl⟩

/-! ### Offsets -/

/-- The offset that is written for one. -/
def writtenOffset (offset : Int) : Int :=
  let seconds := (offset.natAbs + 30) / 60 * 60
  if offset < 0 then -seconds else seconds

theorem writtenOffset_eq_iff (offset : Int) : writtenOffset offset = offset ↔ (60 : Int) ∣ offset := by
  rw [writtenOffset]
  split <;> omega

theorem twoDigits_cons (a b : Char) (rest : List Char) : Scan.twoDigits (a :: b :: rest) = some (a, b) := by
  have hlong : Scan.shorterThan 2 (a :: b :: rest) = false := shorterThan_false (by simp)
  rw [Scan.twoDigits, if_neg (by simp [hlong])]

/-- Hours and minutes of two digits each are read. -/
theorem offset_digits (negative : Bool) {a b c d : Char} (ha : a.isDigit = true) (hb : b.isDigit = true)
    (hc : c.isDigit = true) (hd : d.isDigit = true) (hsix : c < '6') :
    Scan.offset ⟨true, false, true⟩ ((if negative then '-' else '+') :: a :: b :: ':' :: c :: [d]) =
      .ok (let seconds : Int := digitsValue [a, b] * 3600 + digitsValue [c, d] * 60
        if negative then -seconds else seconds, []) := by
  have hlong : Scan.shorterThan 2 [c, d] = false := shorterThan_false (by simp)
  cases negative <;>
    simp [Scan.offset, bind, Except.bind, pure, Except.pure, twoDigits_cons, ha, hb, hc, hd, hsix, Scan.char, hlong]

theorem padded_two {n : Nat} (hn : n < 100) : ∃ a b, padded 2 n = [a, b] ∧ (n < 60 → a < '6') := by
  have hall : ∀ n < 100, padded 2 n = [Nat.digitChar (n / 10), Nat.digitChar (n % 10)] ∧
      (n < 60 → Nat.digitChar (n / 10) < '6') := by decide
  exact ⟨_, _, hall n hn⟩

/-- The sign, the hours and the minutes of an offset are read. -/
theorem offset_minuteOffset {offset : Int} (h : offset.natAbs < 86400) :
    Scan.offset ⟨true, false, true⟩ (minuteOffset [':'] offset) = .ok (writtenOffset offset, []) := by
  obtain ⟨minutes, hminutes⟩ : ∃ minutes, minutes = (offset.natAbs + 30) / 60 := ⟨_, rfl⟩
  obtain ⟨a, b, hhours, -⟩ := padded_two (by omega : minutes / 60 < 100)
  obtain ⟨c, d, hrest, hsix⟩ := padded_two (by omega : minutes % 60 < 100)
  have hdigit {n : Nat} {x y : Char} (hxy : padded 2 n = [x, y]) : x.isDigit = true ∧ y.isDigit = true :=
    ⟨isDigit_of_mem_padded (show x ∈ padded 2 n by simp [hxy]),
      isDigit_of_mem_padded (show y ∈ padded 2 n by simp [hxy])⟩
  have hvalueHours : digitsValue [a, b] = minutes / 60 := by rw [← hhours, digitsValue_padded]
  have hvalueMinutes : digitsValue [c, d] = minutes % 60 := by rw [← hrest, digitsValue_padded]
  have htext : minuteOffset [':'] offset =
      (if decide (offset < 0) = true then '-' else '+') :: a :: b :: ':' :: c :: [d] := by
    simp only [minuteOffset, ← hminutes, hhours, hrest, List.cons_append, List.nil_append, decide_eq_true_eq]
  rw [htext, offset_digits _ (hdigit hhours).1 (hdigit hhours).2 (hdigit hrest).1 (hdigit hrest).2 (hsix (by omega)),
    hvalueHours, hvalueMinutes, writtenOffset, ← hminutes]
  simp only [decide_eq_true_eq, Except.ok.injEq, Prod.mk.injEq, and_true]
  split <;> omega

/-- How a timestamp ends: a mark for no offset, or the offset. -/
def offsetText (offset : Int) : List Char :=
  if offset = 0 then ['Z'] else minuteOffset [':'] offset

theorem offset_offsetText {offset : Int} (h : offset.natAbs < 86400) :
    Scan.offset ⟨true, false, true⟩ (offsetText offset) = .ok (writtenOffset offset, []) := by
  rw [offsetText]
  split
  · rename_i hzero
    rw [hzero]
    rfl
  · exact offset_minuteOffset h

theorem exists_offsetText (offset : Int) : ∃ c rest, offsetText offset = c :: rest ∧ c.isDigit = false ∧ c ≠ '.' := by
  rw [offsetText]
  split
  · exact ⟨'Z', [], rfl, by decide, by decide⟩
  · rw [minuteOffset]
    by_cases hnegative : offset < 0
    · exact ⟨'-', _, by rw [if_pos hnegative]; rfl, by decide, by decide⟩
    · exact ⟨'+', _, by rw [if_neg hnegative]; rfl, by decide, by decide⟩

/-! ### Dates and clocks -/

theorem Date.IsReal.day_lt {d : Date} (h : d.IsReal) : d.day < 100 := by
  have hday := h.day_le
  rw [daysInMonth.eq_def] at hday
  split at hday
  · split at hday <;> omega
  all_goals omega

theorem date?_of_isReal {d : Date} (h : d.IsReal) (hyear : 0 ≤ d.year ∧ d.year ≤ 9999) :
    date? d.year d.month d.day = some d := by
  obtain ⟨hm1, hm12, hd1, hday⟩ := h
  rw [date?, if_pos]
  · rfl
  · rw [leastYear, greatestYear, Int.toNat_natCast]
    omega

end Time

open Time

namespace Timestamp

/-- The clock of a leap second is read as one. -/
theorem clockReading?_clock {t : Timestamp} (h : t.Sound) :
    ∃ leap, clockReading? t.hour t.minute t.clockSecond = some ((t.secondOfDay : Int), leap) ∧
      t.fraction + leap = t.nano := by
  have hnano : t.nano < 2000000000 := h.shown.nano_lt
  have hleap : 1000000000 ≤ t.nano → t.localSecond % 60 = 59 := h.shown.leap
  have hday : t.secondOfDay < 86400 := by
    rw [secondOfDay]
    omega
  have hlast : 1000000000 ≤ t.nano → t.secondOfDay % 60 = 59 := by
    intro hn
    have := hleap hn
    rw [secondOfDay]
    omega
  rw [clockReading?, hour, minute, clockSecond, fraction]
  by_cases hn : 1000000000 ≤ t.nano
  · -- the second of a leap second is written as sixty
    have hcarry : t.nano / 1000000000 = 1 := by omega
    have hlast := hlast hn
    refine ⟨1000000000, ?_, by omega⟩
    rw [if_neg (by omega), if_pos (by omega)]
    simp only [Option.some.injEq, Prod.mk.injEq, and_true]
    omega
  · have hcarry : t.nano / 1000000000 = 0 := by omega
    refine ⟨0, ?_, by omega⟩
    rw [if_neg (by omega), if_neg (by omega)]
    simp only [Option.some.injEq, Prod.mk.injEq, and_true]
    omega

theorem toList_internet (t : Timestamp) : t.internet.toList = clockText t ++ offsetText t.offset := by
  rw [internet, String.toList_ofList, offsetText]

/-- Every field of the clock has its two digits. -/
theorem clock_lt {t : Timestamp} (h : t.Sound) :
    t.hour < 100 ∧ t.minute < 100 ∧ t.clockSecond < 100 ∧ t.fraction < 1000000000 := by
  have hnano : t.nano < 2000000000 := h.shown.nano_lt
  rw [hour, minute, clockSecond, fraction, secondOfDay]
  omega

/-- What the text of a timestamp is read back as. -/
theorem ofInternet_internet {t : Timestamp} (h : t.Sound) (hyear : 0 ≤ t.date.year ∧ t.date.year ≤ 9999) :
    ofInternet t.internet.toList =
      if 86400 ≤ (writtenOffset t.offset).natAbs then .error .outOfRange
      else .ok ⟨t.localSecond - writtenOffset t.offset, t.nano, writtenOffset t.offset⟩ := by
  have hreal : t.date.IsReal := Date.isReal_civilFromDays _
  have hmonth := hreal.month_le
  have hday := hreal.day_lt
  have hdate := date?_of_isReal hreal hyear
  obtain ⟨hhour, hminute, hsecond, hfraction⟩ := clock_lt h
  obtain ⟨leap, hclock, hleap⟩ := clockReading?_clock h
  have hoffset := offset_offsetText h.offset_lt
  have hlocal : daysFromCivil t.date * 86400 + (t.secondOfDay : Int) = t.localSecond := by
    rw [date, daysFromCivil_civilFromDays, secondOfDay]
    omega
  rw [toList_internet, clockText, yearText, if_pos hyear]
  simp only [List.append_assoc, List.cons_append]
  rw [ofInternet, shorterThan_false]
  · simp (disch := omega) only [Bool.false_eq_true, if_false, bind, Except.bind, pure, Except.pure, separator,
      digitField_padded, List.mem_cons, true_or, if_true, Int.toNat_of_nonneg hyear.1, hdate, Option.elim_some, hclock]
    -- a fraction starts with a point, and an offset with none: what follows the seconds is told apart by it
    obtain ⟨c, rest, htext, hc, hpoint⟩ := exists_offsetText t.offset
    rcases fractionText_cases hfraction with ⟨hzero, hnone⟩ | ⟨width, n, h0, h9, hn, hvalue, hdigits⟩
    · have hnano : leap = t.nano := by omega
      rw [hnone, List.nil_append, htext]
      split
      · rename_i heq
        exact absurd (List.cons.inj heq).1 hpoint
      · rw [← htext, hoffset]
        simp [hlocal, hnano]
    · simp only [hdigits, List.cons_append, htext, fraction_padded h0 h9 hn hc]
      rw [← htext]
      simp [hoffset, hlocal, hvalue, hleap]
  · simp (disch := omega) only [List.length_append, List.length_cons, length_padded]
    omega

theorem ofInternet_cons_of_not_digit {c : Char} (hc : c.isDigit = false) (s : List Char) (t : Timestamp) :
    ofInternet (c :: s) ≠ .ok t := by
  have hfield : digitField 4 (c :: s) = .error .invalid := by
    rw [digitField, List.take_succ_cons, List.all_cons, hc, Bool.false_and, Bool.and_false, if_neg (by decide)]
  rw [ofInternet, hfield]
  split <;> exact fun h => nomatch h

/-- Only a year of four digits is read. -/
theorem ofInternet_internet_of_year {t : Timestamp} (hyear : ¬(0 ≤ t.date.year ∧ t.date.year ≤ 9999))
    (t' : Timestamp) : ofInternet t.internet.toList ≠ .ok t' := by
  rw [toList_internet, clockText, yearText, if_neg hyear, signedPadded]
  simp only [List.append_assoc, List.cons_append]
  exact ofInternet_cons_of_not_digit (by split <;> decide) _ t'

/-- A timestamp is read back as the same instant exactly if the form has room for it. -/
theorem exists_ofInternet_iff {t : Timestamp} (h : t.Sound) :
    (∃ t', ofInternet t.internet.toList = .ok t' ∧ t'.sameInstant t = true) ↔ t.Fits := by
  have hoffset := h.offset_lt
  constructor
  · rintro ⟨t', hread, hsame⟩
    have hyear : 0 ≤ t.date.year ∧ t.date.year ≤ 9999 := by
      by_contra hyear
      exact ofInternet_internet_of_year hyear t' hread
    rw [ofInternet_internet h hyear] at hread
    split at hread
    · cases hread
    · obtain rfl := Except.ok.inj hread
      simp only [sameInstant, localSecond, Bool.and_eq_true, beq_iff_eq] at hsame
      exact ⟨hyear, (writtenOffset_eq_iff _).1 (by omega)⟩
  · rintro ⟨hyear, hwhole⟩
    rw [← writtenOffset_eq_iff] at hwhole
    refine ⟨t, ?_, by simp [sameInstant]⟩
    rw [ofInternet_internet h hyear, hwhole, if_neg (Nat.not_le.2 hoffset), localSecond, Int.add_sub_cancel]

/-! ### Text without blanks -/

theorem isBlank_of_isDigit {c : Char} (h : c.isDigit = true) : Unicode.isBlank c = false := by
  have hrange := range_of_isDigit h
  have hspace : (c == ' ') = false := by
    rw [beq_eq_false_iff_ne]
    rintro rfl
    exact absurd hrange (by decide)
  rw [Unicode.isBlank, if_pos (by omega), hspace, Bool.false_or, Bool.and_eq_false_iff, decide_eq_false_iff_not,
    decide_eq_false_iff_not]
  omega

theorem isBlank_of_mem_internet {t : Timestamp} {c : Char} (h : c ∈ t.internet.toList) : Unicode.isBlank c = false := by
  have hpadded {width n : Nat} : ∀ c ∈ padded width n, Unicode.isBlank c = false :=
    fun c hc => isBlank_of_isDigit (isDigit_of_mem_padded hc)
  have hsign (negative : Prop) [Decidable negative] : Unicode.isBlank (if negative then '-' else '+') = false := by
    split <;> decide
  have hyear : ∀ c ∈ yearText t.date.year, Unicode.isBlank c = false := by
    rw [yearText]
    split
    · exact hpadded
    · exact List.forall_mem_cons.2 ⟨hsign _, hpadded⟩
  have hfraction : ∀ c ∈ fractionText t.fraction, Unicode.isBlank c = false := by
    have hlt : t.fraction < 1000000000 := Nat.mod_lt _ (by decide)
    rcases fractionText_cases hlt with ⟨-, h⟩ | ⟨_, _, _, _, _, _, h⟩
    · simp [h]
    · rw [h]
      exact List.forall_mem_cons.2 ⟨by decide, hpadded⟩
  have hoffset : ∀ c ∈ offsetText t.offset, Unicode.isBlank c = false := by
    rw [offsetText]
    split
    · exact List.forall_mem_singleton.2 (by decide)
    · simp only [minuteOffset, List.cons_append, List.forall_mem_cons, List.forall_mem_append]
      exact ⟨hsign _, ⟨hpadded, by decide, List.forall_mem_nil _⟩, hpadded⟩
  have hall : ∀ c ∈ clockText t ++ offsetText t.offset, Unicode.isBlank c = false := by
    simp only [clockText, List.forall_mem_append, List.forall_mem_cons]
    exact ⟨⟨⟨⟨⟨⟨⟨hyear, by decide, hpadded⟩, by decide, hpadded⟩, by decide, hpadded⟩, by decide, hpadded⟩, by decide,
      hpadded⟩, hfraction⟩, hoffset⟩
  exact hall c (toList_internet t ▸ h)

theorem trim_internet (t : Timestamp) : Text.trim t.internet.toList = t.internet.toList := by
  have hkeep {cs : List Char} (h : ∀ c ∈ cs, c ∈ t.internet.toList) : cs.dropWhile Unicode.isBlank = cs := by
    rw [List.dropWhile_eq_self_iff]
    intro hcs
    simp [isBlank_of_mem_internet (h _ (List.getElem_mem hcs))]
  rw [Text.trim, hkeep fun _ h => h, hkeep fun _ h => List.mem_reverse.1 h, List.reverse_reverse]

end Timestamp

/-! ### What is read -/

namespace Time

theorem digitsValue_lt {cs : List Char} (h : ∀ c ∈ cs, c.isDigit = true) : digitsValue cs < 10 ^ cs.length := by
  -- by induction on the digits, for any number that those before them stand for
  have hfold : ∀ (cs : List Char) (n : Nat), (∀ c ∈ cs, c.isDigit = true) →
      cs.foldl (fun n c => 10 * n + (c.toNat - 48)) n < (n + 1) * 10 ^ cs.length := by
    intro cs
    induction cs with
    | nil => intro n _; simp
    | cons c cs ih =>
      intro n h
      obtain ⟨hc, hcs⟩ := List.forall_mem_cons.1 h
      have hdigit := range_of_isDigit hc
      refine Nat.lt_of_lt_of_le (ih _ hcs) ?_
      rw [List.length_cons, Nat.pow_succ, Nat.mul_comm _ 10, ← Nat.mul_assoc]
      exact Nat.mul_le_mul_right _ (by dsimp only; omega)
  simpa [digitsValue] using hfold cs 0 h

theorem lt_of_digitField {width n : Nat} {s rest : List Char} (h : Timestamp.digitField width s = .ok (n, rest)) :
    n < 10 ^ width := by
  unfold Timestamp.digitField at h
  dsimp only at h
  split at h
  · rename_i hdigits
    obtain ⟨hlength, hall⟩ := by simpa only [Bool.and_eq_true, decide_eq_true_eq, List.all_eq_true] using hdigits
    obtain ⟨rfl, -⟩ := Prod.mk.inj (Except.ok.inj h)
    have hlt := digitsValue_lt hall
    rwa [hlength] at hlt
  · cases h

theorem number_range {least most : Nat} {s rest : List Char} {v : Int}
    (h : Scan.number least (some most) s = .ok (v, rest)) :
    ∃ width n : Nat, width ≤ most ∧ width ≤ s.length ∧ n < 10 ^ width ∧ v = n ∧ rest = s.drop width := by
  unfold Scan.number at h
  dsimp only [Option.map_some, Option.getD_some] at h
  split at h
  · cases h
  · split at h
    · cases h
    · split at h
      · cases h
      · obtain ⟨rfl, rfl⟩ := Prod.mk.inj (Except.ok.inj h)
        have hdigits : ∀ c ∈ (s.takeWhile Char.isDigit).take most, c.isDigit = true :=
          fun c hc => List.mem_takeWhile_imp (List.mem_of_mem_take hc)
        have hsublist := (List.take_sublist most (s.takeWhile Char.isDigit)).trans (List.takeWhile_sublist _)
        exact ⟨_, _, List.length_take_le .., hsublist.length_le, digitsValue_lt hdigits, rfl, rfl⟩

/-- A fraction is less than a second. -/
theorem fraction_range {s rest : List Char} {v : Int} (h : Scan.fraction s = .ok (v, rest)) :
    0 ≤ v ∧ v < 1000000000 := by
  obtain ⟨⟨n, rest'⟩, hnumber, h⟩ := bind_eq_ok.1 h
  obtain ⟨width, n, hwidth, hlength, hn, rfl, rfl⟩ := number_range hnumber
  obtain ⟨rfl, -⟩ := Prod.mk.inj (Except.ok.inj h)
  have hdigits : s.length - (s.drop width).length = width := by
    rw [List.length_drop]
    omega
  have hlt : n * Nat.pow 10 (9 - width) < 1000000000 := by
    calc n * Nat.pow 10 (9 - width) < 10 ^ width * 10 ^ (9 - width) :=
          Nat.mul_lt_mul_of_pos_right hn (Nat.pow_pos (by decide))
      _ = 10 ^ 9 := by rw [← Nat.pow_add, Nat.add_sub_cancel' hwidth]
      _ = 1000000000 := by decide
  rw [hdigits, ← Int.natCast_mul]
  exact ⟨Int.natCast_nonneg _, Int.ofNat_lt.2 hlt⟩

/-- An offset is read in minutes. -/
theorem dvd_of_offset {s rest : List Char} {v : Int} (h : Scan.offset ⟨true, false, true⟩ s = .ok (v, rest)) :
    (60 : Int) ∣ v := by
  unfold Scan.offset at h
  split at h
  · cases h
  · -- each branch that ends well has hours and minutes, or neither
    simp only [bind, Except.bind, pure, Except.pure, Bool.true_and, if_true, Bool.false_eq_true, if_false] at h
    repeat' split at h
    all_goals cases h
    all_goals omega

theorem isReal_of_date? {year month day : Int} {d : Date} (h : date? year month day = some d) :
    d.IsReal ∧ d.year = year := by
  unfold date? at h
  split at h
  · rename_i hd
    obtain rfl := Option.some.inj h
    obtain ⟨-, -, hm1, hm12, hd1, hday⟩ := hd
    refine ⟨⟨?_, ?_, ?_, ?_⟩, rfl⟩ <;> dsimp only <;> omega
  · cases h

end Time

namespace Timestamp

theorem clockReading?_range {hour minute second leap : Nat} {clock : Int}
    (h : clockReading? hour minute second = some (clock, leap)) :
    (0 ≤ clock ∧ clock < 86400) ∧ (leap = 0 ∨ leap = 1000000000 ∧ clock % 60 = 59) := by
  unfold clockReading? at h
  dsimp only at h
  split at h
  · cases h
  · split at h <;> obtain ⟨rfl, rfl⟩ := Prod.mk.inj (Option.some.inj h) <;> omega

/-- The date and the clock of what is read are those that the text shows. -/
theorem sound_of_fields {year month day hour minute second leap : Nat} {date : Date} {nano clock offset : Int}
    {s rest : List Char} (hyear : year < 10 ^ 4) (hdate : date? year month day = some date)
    (hnano : 0 ≤ nano ∧ nano < 1000000000) (hclock : clockReading? hour minute second = some (clock, leap))
    (hoffset : Scan.offset ⟨true, false, true⟩ s = .ok (offset, rest)) (hlt : offset.natAbs < 86400) :
    let t : Timestamp := ⟨daysFromCivil date * 86400 + clock - offset, nano.toNat + leap, offset⟩
    t.Sound ∧ t.Fits := by
  intro t
  obtain ⟨hclock, hleap⟩ := clockReading?_range hclock
  obtain ⟨hreal, hdateYear⟩ := isReal_of_date? hdate
  have hlocal : t.localSecond = daysFromCivil date * 86400 + clock := Int.sub_add_cancel _ _
  have hshows : t.date = date := by
    rw [Timestamp.date, hlocal, show (daysFromCivil date * 86400 + clock) / 86400 = daysFromCivil date by omega,
      civilFromDays_daysFromCivil hreal]
  refine ⟨⟨⟨?_, ?_⟩, hlt⟩, ?_, dvd_of_offset hoffset⟩
  · show nano.toNat + leap < 2000000000
    omega
  · show 1000000000 ≤ nano.toNat + leap → t.localSecond % 60 = 59
    rw [hlocal]
    omega
  · rw [hshows, hdateYear]
    omega

/-- What is read is sound and fits. -/
theorem sound_of_ofInternet {s : List Char} {t : Timestamp} (h : ofInternet s = .ok t) : t.Sound ∧ t.Fits := by
  have helim {α : Type} {x : Option α} {a : α} (h : x.elim (.error .outOfRange : Except Problem α) .ok = .ok a) :
      x = some a := by
    cases x with
    | none => cases h
    | some b => exact congrArg some (Except.ok.inj h)
  unfold ofInternet at h
  split at h
  · cases h
  simp only [bind_eq_ok, Prod.exists] at h
  obtain ⟨year, _, hyear, _, -, month, _, -, _, -, day, _, -, date, hdate, _, -, hour, _, -, _, -, minute, _, -, _, -,
    second, _, -, h⟩ := h
  have hyear := lt_of_digitField hyear
  have hdate := helim hdate
  split at h <;> simp only [bind_eq_ok, Prod.exists] at h
  · obtain ⟨nano, rest, hnano, clock, leap, hclock, offset, left, hoffset, h⟩ := h
    split at h
    · cases h
    · split at h
      · cases h
      · obtain rfl := Except.ok.inj h
        exact sound_of_fields hyear hdate (fraction_range hnano) (helim hclock) hoffset (Nat.lt_of_not_le ‹_›)
  · obtain ⟨nano, rest, hnano, clock, leap, hclock, offset, left, hoffset, h⟩ := h
    obtain ⟨rfl, rfl⟩ := Prod.mk.inj (Except.ok.inj hnano)
    split at h
    · cases h
    · split at h
      · cases h
      · obtain rfl := Except.ok.inj h
        exact sound_of_fields hyear hdate (by omega) (helim hclock) hoffset (Nat.lt_of_not_le ‹_›)

end Timestamp

end Reshape
