/-
Timestamps that programs come by.

A program writes a timestamp, or makes it of a number of seconds or of a text.  Each shows itself by one text, and the
text is read back as the same instant exactly if the Internet form has room for the timestamp.

* `Timestamp.Obtained` — how a program comes by a timestamp;
* `Timestamp.Obtained.sound`, `Timestamp.Obtained.fits` — what holds of it then;
* `Function.toTimestamp_toString` — the text there and back.
-/
import Reshape.Function.Call
import Reshape.Function.Conversion
import Reshape.Proofs.Clues
import Reshape.Proofs.Lexing
import Reshape.Value.Json

namespace Reshape

open Time

namespace Function

/-! ### Functions that make timestamps -/

theorem sound_parseTimestamp {s : Surroundings} (hzone : s.zone.WithinDay) {serial : Nat} {root root' : Value}
    {args : Arguments} {t : Timestamp} (h : parseTimestamp.call s serial root args = (.ok (.timestamp t), root')) :
    t.Sound := by
  have hrun := (Prod.mk.inj h).1
  obtain ⟨text, -, hrun⟩ := bind_eq_ok.1 hrun
  obtain ⟨pattern, -, hrun⟩ := bind_eq_ok.1 hrun
  obtain ⟨items, -, hrun⟩ := bind_eq_ok.1 hrun
  split at hrun
  · rename_i t' ht'
    obtain rfl := Value.timestamp.inj (Except.ok.inj hrun)
    exact sound_timestampOf hzone items text.toList t' ht'
  · cases hrun

theorem parseTimestamp_of_timestampOf {s : Surroundings} {text pattern : String} {t : Timestamp}
    (h : (Time.Pattern.read? pattern.toList).map (fun items => timestampOf s.zone items text.toList) = some (.ok t))
    (serial : Nat) (root : Value) :
    parseTimestamp.call s serial root [.ofValue (.string text), .ofValue (.string pattern)] =
      (.ok (.timestamp t), root) := by
  obtain ⟨items, hitems, ht⟩ := Option.map_eq_some_iff.1 h
  simp [parseTimestamp, call, Arguments.string, Arguments.required, Argument.ofValue, patternOf, hitems, ht, bind,
    Except.bind, pure, Except.pure]

theorem sound_of_ofUnix? {second : Int} {t : Timestamp} (h : Timestamp.ofUnix? second 0 = some t) :
    t.Sound ∧ t.offset = 0 := by
  unfold Timestamp.ofUnix? at h
  split at h
  · obtain rfl := Option.some.inj h
    exact ⟨⟨⟨Nat.zero_lt_succ _, fun h => absurd h (Nat.not_succ_le_zero _)⟩, Nat.zero_lt_succ _⟩, rfl⟩
  · cases h

section

variable (s : Surroundings) (serial : Nat) (root : Value) (place : Option Path)

theorem toTimestamp_integer (i : Int64) :
    toTimestamp.call s serial root [⟨.integer i, true, place⟩] =
      (match Timestamp.ofUnix? i.toInt 0 with
        | some t => .ok (.timestamp t)
        | none => .error (notConvertible (.integer i) "timestamp"), root) := by
  show (((Timestamp.ofUnix? i.toInt 0).map Value.timestamp).elim (Except.error _) Except.ok, root) = _
  cases Timestamp.ofUnix? i.toInt 0 <;> rfl

theorem toTimestamp_string (text : String) :
    toTimestamp.call s serial root [⟨.string text, true, place⟩] =
      (match Timestamp.ofInternet (Text.trim text.toList) with
        | .ok t => .ok (.timestamp t)
        | .error _ => .error (notConvertible (.string text) "timestamp"), root) := by
  show (((Timestamp.ofInternet (Text.trim text.toList)).toOption.map Value.timestamp).elim (Except.error _) Except.ok,
    root) = _
  cases Timestamp.ofInternet (Text.trim text.toList) <;> rfl

variable {s serial root place}

theorem ofUnix?_of_toTimestamp {root' : Value} {i : Int64} {t : Timestamp}
    (h : toTimestamp.call s serial root [⟨.integer i, true, place⟩] = (.ok (.timestamp t), root')) :
    Timestamp.ofUnix? i.toInt 0 = some t := by
  rw [toTimestamp_integer] at h
  cases hread : Timestamp.ofUnix? i.toInt 0 with
  | none => simp [hread] at h
  | some t' =>
    rw [hread] at h
    exact congrArg some (Value.timestamp.inj (Except.ok.inj (Prod.mk.inj h).1))

theorem toTimestamp_eq_ok_iff {text : String} {t : Timestamp} :
    toTimestamp.call s serial root [⟨.string text, true, place⟩] = (.ok (.timestamp t), root) ↔
      Timestamp.ofInternet (Text.trim text.toList) = .ok t := by
  rw [toTimestamp_string]
  cases Timestamp.ofInternet (Text.trim text.toList) <;> simp

end

end Function

/-! ### Timestamps of a program -/

namespace Scan

theorem Scans.timestamp_read {s rest : List Char} {t : Timestamp} (h : Scans s (.timestamp t) rest) :
    ∃ text, Timestamp.ofInternet text = .ok t := by
  generalize hkind : TokenKind.timestamp t = kind at h
  cases h with
  | timestamp hread =>
    obtain rfl := TokenKind.timestamp.inj hkind
    exact ⟨_, hread⟩
  | word => cases (hkind ▸ isLiteral_wordKind _ : isLiteral (.timestamp t) = false)
  | symbol hsymbol => cases (hkind ▸ isLiteral_of_symbol? hsymbol : isLiteral (.timestamp t) = false)
  | _ => cases hkind

end Scan

theorem exists_ofInternet_of_tokenize {source : String} :
    ∀ token ∈ (tokenize source).1, ∀ t, token.kind = .timestamp t → ∃ text, Timestamp.ofInternet text = .ok t := by
  refine forall_mem_tokenize
    (fun token => ∀ t, token.kind = .timestamp t → ∃ text, Timestamp.ofInternet text = .ok t) ?_ ?_ ?_ source
  · intro m t ht
    cases ht
  · rintro m s _ rest hscans t rfl
    exact hscans.timestamp_read
  · intro m s rest t ht
    cases ht

/-- Where a program has a timestamp from. -/
inductive Timestamp.Source where
  | literal | integer | text
deriving DecidableEq

/-- A program comes by the timestamp: it is written in it, or made of a number of seconds or of a text that is read on
the clock of the zone. -/
inductive Timestamp.Obtained (zone : Zone) : Source → Timestamp → Prop
  | literal {source : String} {token : Token} {t : Timestamp} :
      token ∈ (tokenize source).1 → token.kind = .timestamp t → Obtained zone .literal t
  | integer {s : Surroundings} {serial : Nat} {root root' : Value} {i : Int64} {place : Option Path} {t : Timestamp} :
      Function.toTimestamp.call s serial root [⟨.integer i, true, place⟩] = (.ok (.timestamp t), root') →
        Obtained zone .integer t
  | text {s : Surroundings} {serial : Nat} {root root' : Value} {args : Arguments} {t : Timestamp} :
      s.zone = zone → Function.parseTimestamp.call s serial root args = (.ok (.timestamp t), root') →
        Obtained zone .text t

theorem Timestamp.Obtained.sound {zone : Zone} {source : Source} {t : Timestamp} (h : Obtained zone source t)
    (hzone : zone.WithinDay) : t.Sound := by
  cases h with
  | literal htoken hkind =>
    obtain ⟨text, hread⟩ := exists_ofInternet_of_tokenize _ htoken t hkind
    exact (sound_of_ofInternet hread).1
  | integer hcall => exact (Function.sound_of_ofUnix? (Function.ofUnix?_of_toTimestamp hcall)).1
  | text hs hcall => exact Function.sound_parseTimestamp (hs ▸ hzone) hcall

/-- A timestamp of a literal fits the Internet form, and one of a number has no offset. -/
theorem Timestamp.Obtained.fits {zone : Zone} {source : Source} {t : Timestamp} (h : Obtained zone source t) :
    (source = .literal → t.Fits) ∧ (source = .integer → t.offset = 0) := by
  cases h with
  | literal htoken hkind =>
    obtain ⟨text, hread⟩ := exists_ofInternet_of_tokenize _ htoken t hkind
    exact ⟨fun _ => (sound_of_ofInternet hread).2, nofun⟩
  | integer hcall => exact ⟨nofun, fun _ => (Function.sound_of_ofUnix? (Function.ofUnix?_of_toTimestamp hcall)).2⟩
  | text hs hcall => exact ⟨nofun, nofun⟩

/-- A timestamp that a program comes by has one text, wherever it is shown, and the text is read back as the same
instant exactly if the form has room for the timestamp.  It has for each that is written in a program, and one of a
number can only have too large a year. -/
theorem Function.toTimestamp_toString {zone : Zone} (hzone : zone.WithinDay) {source : Timestamp.Source}
    {t : Timestamp} (h : t.Obtained zone source) (s : Surroundings) (serial : Nat) (root : Value)
    (place place' : Option Path) :
    ∃ text : String, toString.call s serial root [⟨.timestamp t, true, place⟩] = (.ok (.string text), root) ∧
      (Value.timestamp t).text = "t'" ++ text ++ "'" ∧ (Value.timestamp t).toJson = .string text ∧
      ((∃ t', toTimestamp.call s serial root [⟨.string text, true, place'⟩] = (.ok (.timestamp t'), root) ∧
        t'.sameInstant t = true) ↔ t.Fits) ∧
      (source = .literal → t.Fits) ∧ (source = .integer → t.offset = 0) := by
  refine ⟨t.internet, rfl, ?_, rfl, ?_, h.fits⟩
  · rw [Value.text, Value.write, ← String.toList_inj]
    simp
  · simp only [toTimestamp_eq_ok_iff, Timestamp.trim_internet, Timestamp.exists_ofInternet_iff (h.sound hzone)]

/-- A leap second on the clock of Kathmandu. -/
theorem Function.toTimestamp_toString_leap :
    let s : Surroundings := ⟨Zone.asiaKathmandu, ⟨0, 0, 0⟩, 0⟩
    let t : Timestamp := ⟨1483208099, 1500000000, 20700⟩
    Zone.asiaKathmandu.WithinDay ∧
      parseTimestamp.call s 0 .null
        [.ofValue (.string "2016-12-31 23:59:60.5"), .ofValue (.string "%Y-%m-%d %H:%M:%S%.f")] =
          (.ok (.timestamp t), .null) ∧
      toString.call s 0 .null [.ofValue (.timestamp t)] = (.ok (.string "2016-12-31T23:59:60.500+05:45"), .null) ∧
      ∃ t', toTimestamp.call s 0 .null [.ofValue (.string "2016-12-31T23:59:60.500+05:45")] =
        (.ok (.timestamp t'), .null) ∧ t'.sameInstant t = true := by
  intro s t
  have hcall : parseTimestamp.call s 0 .null
      [.ofValue (.string "2016-12-31 23:59:60.5"), .ofValue (.string "%Y-%m-%d %H:%M:%S%.f")] =
        (.ok (.timestamp t), .null) :=
    parseTimestamp_of_timestampOf (by decide +kernel) 0 .null
  have htext : t.internet = "2016-12-31T23:59:60.500+05:45" := by decide +kernel
  have hfits : t.Fits := ⟨by decide +kernel, by decide +kernel⟩
  obtain ⟨text, hprint, -, -, hread, -⟩ :=
    toTimestamp_toString Zone.withinDay_asiaKathmandu (.text rfl hcall) s 0 .null none none
  obtain rfl : text = "2016-12-31T23:59:60.500+05:45" := by
    rw [← htext]
    exact (Value.string.inj (Except.ok.inj (Prod.mk.inj hprint).1)).symm
  exact ⟨Zone.withinDay_asiaKathmandu, hcall, hprint, hread.2 hfits⟩

/-- The first second of a year with five digits has a text that is not read.  On the clock that Kathmandu had before
it had a time zone, the text is read as an instant some seconds away. -/
theorem Function.toTimestamp_toString_beyond :
    let s : Surroundings := ⟨Zone.asiaKathmandu, ⟨0, 0, 0⟩, 0⟩
    let late : Timestamp := ⟨253402300800, 0, 0⟩
    let early : Timestamp := ⟨-3786846076, 0, 20476⟩
    (toTimestamp.call s 0 .null [.ofValue (.integer 253402300800)] = (.ok (.timestamp late), .null) ∧
      toString.call s 0 .null [.ofValue (.timestamp late)] = (.ok (.string "+10000-01-01T00:00:00Z"), .null) ∧
      toTimestamp.call s 0 .null [.ofValue (.string "+10000-01-01T00:00:00Z")] =
        (.error (notConvertible (.string "+10000-01-01T00:00:00Z") "timestamp"), .null)) ∧
    parseTimestamp.call s 0 .null [.ofValue (.string "1850-01-01"), .ofValue (.string "%Y-%m-%d")] =
      (.ok (.timestamp early), .null) ∧
    toString.call s 0 .null [.ofValue (.timestamp early)] = (.ok (.string "1850-01-01T00:00:00+05:41"), .null) ∧
    toTimestamp.call s 0 .null [.ofValue (.string "1850-01-01T00:00:00+05:41")] =
      (.ok (.timestamp ⟨-3786846060, 0, 20460⟩), .null) ∧
    early.sameInstant ⟨-3786846060, 0, 20460⟩ = false := by
  intro s late early
  have hlate : late.internet = "+10000-01-01T00:00:00Z" := by decide +kernel
  have hearly : early.internet = "1850-01-01T00:00:00+05:41" := by decide +kernel
  have hprint {t : Timestamp} {text : String} (h : t.internet = text) :
      toString.call s 0 .null [.ofValue (.timestamp t)] = (.ok (.string text), .null) := by
    rw [← h]
    rfl
  refine ⟨⟨?_, hprint hlate, ?_⟩, ?_, hprint hearly, ?_, by decide⟩
  · have hread : Timestamp.ofUnix? (253402300800 : Int64).toInt 0 = some late := by decide +kernel
    exact (toTimestamp_integer ..).trans (by rw [hread])
  · have hunread : Timestamp.ofInternet (Text.trim "+10000-01-01T00:00:00Z".toList) = .error .invalid := by
      decide +kernel
    exact (toTimestamp_string ..).trans (by rw [hunread])
  · exact parseTimestamp_of_timestampOf (by decide +kernel) 0 .null
  · exact toTimestamp_eq_ok_iff.2 (by decide +kernel)

end Reshape
