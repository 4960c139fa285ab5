/-
Documents read as values.

The numbers of a document have three forms and those of a value two, so an integer that only fits 64 bits without
sign is read as a float.  All else of a document is kept: it comes back from the value that it is read as.

* `Value.toJson_ofJson` — what comes back of a document, and which documents come back as they are;
* `Value.Plain.ofJson_toJson` — a plain value comes back from its document.
-/
import Reshape.Proofs.Literal
import Reshape.Proofs.Rounding
import Reshape.Value.Json

namespace Reshape

/-! ### Numbers -/

namespace JsonNumber

/-- Numbers as they are read: only a negative integer is held with a sign, and a float is finite. -/
def Legible : JsonNumber → Prop
  | natural _ => True
  | negative i => i < 0
  | float f => f.isFinite = true

/-- What a value keeps of a number: an integer beyond 64 bits with sign becomes the float nearest to it. -/
def kept : JsonNumber → JsonNumber
  | natural n => if n.toNat < int64Bound then natural n else float n.toFloat
  | negative i => negative i
  | float f => float f

theorem kept_eq_self_iff {n : JsonNumber} : n.kept = n ↔ ∀ m, n = natural m → m.toNat < int64Bound := by
  cases n with
  | natural m =>
    rw [kept]
    split
    · rename_i hm
      exact iff_of_true rfl fun _ hn => natural.inj hn ▸ hm
    · rename_i hm
      exact iff_of_false (fun h => by cases h) fun h => hm (h m rfl)
  | negative i => exact iff_of_true rfl fun _ hn => by cases hn
  | float f => exact iff_of_true rfl fun _ hn => by cases hn

/-- The integer of a number is that number again. -/
theorem ofInt64_of_toInt64? {n : JsonNumber} {i : Int64} (hn : n.Legible) (h : n.toInt64? = some i) :
    ofInt64 i = n := by
  cases n with
  | natural m =>
    have hi : i.toInt = m.toNat := toInt_of_fit? h
    have hnonneg : 0 ≤ i := Int64.le_iff_toInt_le.2 (hi ▸ Int.natCast_nonneg _)
    have hm : i.toUInt64 = m := by
      rw [← UInt64.toNat_inj, Int64.toNat_toUInt64_of_le hnonneg, ← Int64.toNat_toInt, hi, Int.toNat_natCast]
    rw [ofInt64, if_pos hnonneg, hm]
  | negative j =>
    obtain rfl : j = i := Option.some.inj h
    rw [ofInt64, if_neg (Int64.not_le.2 hn)]
  | float f => cases h

theorem toInt64?_ofInt64 (i : Int64) : (ofInt64 i).toInt64? = some i := by
  rw [ofInt64]
  split
  · rename_i h
    have hi : (i.toUInt64.toNat : Int) = i.toInt := by
      rw [Int64.toNat_toUInt64_of_le h, Int64.cast_toNatClampNeg _ h]
    rw [toInt64?, hi, fit?_toInt]
  · rfl

end JsonNumber

/-! ### Documents -/

namespace Json

mutual

/-- The numbers of a document, at any depth. -/
def numbers : Json → List JsonNumber
  | number n => [n]
  | array items => numbersAll items
  | object members => numbersMembers members
  | _ => []

def numbersAll : List Json → List JsonNumber
  | [] => []
  | j :: rest => numbers j ++ numbersAll rest

def numbersMembers : List (String × Json) → List JsonNumber
  | [] => []
  | (_, j) :: rest => numbers j ++ numbersMembers rest

end

mutual

/-- A document with other numbers in the places of its own. -/
def mapNumbers (f : JsonNumber → JsonNumber) : Json → Json
  | null => null
  | boolean b => boolean b
  | number n => number (f n)
  | string s => string s
  | array items => array (mapNumbersAll f items)
  | object members => object (mapNumbersMembers f members)

def mapNumbersAll (f : JsonNumber → JsonNumber) : List Json → List Json
  | [] => []
  | j :: rest => mapNumbers f j :: mapNumbersAll f rest

def mapNumbersMembers (f : JsonNumber → JsonNumber) : List (String × Json) → List (String × Json)
  | [] => []
  | (k, j) :: rest => (k, mapNumbers f j) :: mapNumbersMembers f rest

end

variable {f : JsonNumber → JsonNumber}

mutual

/-- A document stays as it is if and only if each of its numbers does. -/
theorem mapNumbers_eq_self_iff : ∀ {j : Json}, j.mapNumbers f = j ↔ ∀ n ∈ j.numbers, f n = n
  | null | boolean _ | string _ => iff_of_true rfl (List.forall_mem_nil _)
  | number n => by rw [mapNumbers, number.injEq, numbers, List.forall_mem_singleton]
  | array items => by rw [mapNumbers, array.injEq, numbers, mapNumbersAll_eq_self_iff]
  | object members => by rw [mapNumbers, object.injEq, numbers, mapNumbersMembers_eq_self_iff]

theorem mapNumbersAll_eq_self_iff : ∀ {items : List Json},
    mapNumbersAll f items = items ↔ ∀ n ∈ numbersAll items, f n = n
  | [] => iff_of_true rfl (List.forall_mem_nil _)
  | j :: rest => by
    rw [mapNumbersAll, List.cons.injEq, numbersAll, List.forall_mem_append, mapNumbers_eq_self_iff,
      mapNumbersAll_eq_self_iff]

theorem mapNumbersMembers_eq_self_iff : ∀ {members : List (String × Json)},
    mapNumbersMembers f members = members ↔ ∀ n ∈ numbersMembers members, f n = n
  | [] => iff_of_true rfl (List.forall_mem_nil _)
  | (k, j) :: rest => by
    rw [mapNumbersMembers, List.cons.injEq, Prod.mk.injEq, eq_self, true_and, numbersMembers, List.forall_mem_append,
      mapNumbers_eq_self_iff, mapNumbersMembers_eq_self_iff]

end

end Json

/-! ### There and back -/

namespace Value

/-- A number as a value and back. -/
theorem toJson_number {n : JsonNumber} (h : n.Legible) : (ofJson (.number n)).toJson = .number n.kept := by
  cases hi : n.toInt64? with
  | some i =>
    have hkept : n.kept = n := by
      cases n with
      | natural m =>
        have hm : i.toInt = m.toNat := toInt_of_fit? hi
        have hlt : i.toInt < 2 ^ 63 := i.toInt_lt
        exact JsonNumber.kept_eq_self_iff.2 fun k hk => by
          obtain rfl := JsonNumber.natural.inj hk
          unfold int64Bound
          omega
      | negative _ => rfl
      | float _ => rfl
    rw [ofJson, hi, hkept]
    exact congrArg Json.number (JsonNumber.ofInt64_of_toInt64? h hi)
  | none =>
    rw [ofJson, hi]
    cases n with
    | natural m =>
      have hm : ¬ m.toNat < int64Bound := fun hlt => by
        rw [JsonNumber.toInt64?, fit?, if_pos (by unfold int64Bound at *; omega)] at hi
        cases hi
      rw [JsonNumber.kept, if_neg hm]
      exact if_pos (isFinite_toFloat m)
    | negative _ => cases hi
    | float f => exact if_pos h

mutual

theorem toJson_ofJson_eq_mapNumbers : ∀ {j : Json}, (∀ n ∈ j.numbers, n.Legible) →
    (ofJson j).toJson = j.mapNumbers JsonNumber.kept
  | .null, _ | .boolean _, _ | .string _, _ => rfl
  | .number _, h => toJson_number (List.forall_mem_singleton.1 h)
  | .array _, h => congrArg Json.array (toJsonItems_ofJsonItems h)
  | .object _, h => congrArg Json.object (toJsonMembers_ofJsonMembers h)

theorem toJsonItems_ofJsonItems : ∀ {items : List Json}, (∀ n ∈ Json.numbersAll items, n.Legible) →
    toJsonItems (ofJsonItems items) = Json.mapNumbersAll JsonNumber.kept items
  | [], _ => rfl
  | j :: rest, h => by
    rw [Json.numbersAll, List.forall_mem_append] at h
    rw [ofJsonItems, toJsonItems, Json.mapNumbersAll, toJson_ofJson_eq_mapNumbers h.1, toJsonItems_ofJsonItems h.2]

theorem toJsonMembers_ofJsonMembers : ∀ {members : List (String × Json)},
    (∀ n ∈ Json.numbersMembers members, n.Legible) →
    toJsonMembers (ofJsonMembers members) = Json.mapNumbersMembers JsonNumber.kept members
  | [], _ => rfl
  | (k, j) :: rest, h => by
    rw [Json.numbersMembers, List.forall_mem_append] at h
    rw [ofJsonMembers, toJsonMembers, Json.mapNumbersMembers, toJson_ofJson_eq_mapNumbers h.1,
      toJsonMembers_ofJsonMembers h.2]

end

/-- What comes back of a document from the value that it is read as: the document with a float in the place of
every integer that does not fit 64 bits with sign, and so the document itself exactly if it has no such integer. -/
theorem toJson_ofJson {j : Json} (h : ∀ n ∈ j.numbers, n.Legible) :
    (ofJson j).toJson = j.mapNumbers JsonNumber.kept ∧
      ((ofJson j).toJson = j ↔ ∀ m, .natural m ∈ j.numbers → m.toNat < int64Bound) := by
  have hback : (ofJson j).toJson = j.mapNumbers JsonNumber.kept := toJson_ofJson_eq_mapNumbers h
  refine ⟨hback, ?_⟩
  rw [hback, Json.mapNumbers_eq_self_iff]
  constructor
  · intro hkept m hm
    exact JsonNumber.kept_eq_self_iff.1 (hkept _ hm) m rfl
  · intro hsmall _ hn
    exact JsonNumber.kept_eq_self_iff.2 fun m hm => hsmall m (hm ▸ hn)

/-- On both sides of the bound, next to the least integer and a float. -/
theorem toJson_ofJson_bound :
    let j : Json := .object [("a", .array [.number (.natural 9223372036854775807), .number (.float 0.5)]),
      ("b", .array [.number (.negative Int64.minValue), .number (.natural 9223372036854775808)])]
    (∀ n ∈ j.numbers, n.Legible) ∧
      (ofJson j).toJson =
        .object [("a", .array [.number (.natural 9223372036854775807), .number (.float 0.5)]),
          ("b", .array [.number (.negative Int64.minValue), .number (.float 9223372036854775808.0)])] ∧
      (ofJson j).toJson ≠ j := by
  intro j
  have hlegible : ∀ n ∈ j.numbers, n.Legible := by
    intro n hn
    simp only [j, Json.numbers, Json.numbersAll, Json.numbersMembers, List.append_nil, List.cons_append,
      List.nil_append, List.mem_cons, List.not_mem_nil, or_false] at hn
    rcases hn with rfl | rfl | rfl | rfl
    · trivial
    · show (0.5 : Float).isFinite = true
      decide +kernel
    · show Int64.minValue < 0
      decide
    · trivial
  obtain ⟨hback, hself⟩ := toJson_ofJson hlegible
  refine ⟨hlegible, hback.trans ?_, fun heq => ?_⟩
  · have hfloat : (9223372036854775808 : UInt64).toFloat = 9223372036854775808.0 := by decide +kernel
    rw [← hfloat]
    rfl
  · exact absurd (hself.1 heq 9223372036854775808 (by simp [j, Json.numbers, Json.numbersAll, Json.numbersMembers]))
      (by decide)

/-- The greatest integer of 64 bits without sign does not come back: what comes back is the float above it. -/
theorem toJson_ofJson_ne :
    let j : Json := .number (.natural 18446744073709551615)
    (∀ n ∈ j.numbers, n.Legible) ∧ (ofJson j).toJson ≠ j := by
  intro j
  refine ⟨List.forall_mem_singleton.2 trivial, fun h => ?_⟩
  have hback : (ofJson j).toJson = .number (.float (18446744073709551615 : UInt64).toFloat) :=
    toJson_number (n := .natural 18446744073709551615) trivial
  rw [hback] at h
  exact JsonNumber.noConfusion (Json.number.inj h)

/-! ### From a value -/

theorem ofJsonItems_toJsonItems {items : List Value} (h : ∀ v ∈ items, ofJson v.toJson = v) :
    ofJsonItems (toJsonItems items) = items := by
  induction items with
  | nil => rfl
  | cons v rest ih =>
    rw [toJsonItems, ofJsonItems, h v List.mem_cons_self, ih fun w hw => h w (List.mem_cons_of_mem _ hw)]

theorem ofJsonMembers_toJsonMembers {fields : List (String × Value)} (h : ∀ f ∈ fields, ofJson f.2.toJson = f.2) :
    ofJsonMembers (toJsonMembers fields) = fields := by
  induction fields with
  | nil => rfl
  | cons f rest ih =>
    obtain ⟨k, v⟩ := f
    rw [toJsonMembers, ofJsonMembers, h (k, v) List.mem_cons_self, ih fun g hg => h g (List.mem_cons_of_mem _ hg)]

/-- A plain value is read from its document. -/
theorem Plain.ofJson_toJson {v : Value} (h : v.Plain) : ofJson v.toJson = v := by
  induction h with
  | null | boolean b | string s => rfl
  | integer i => rw [toJson, ofJson, JsonNumber.toInt64?_ofInt64]
  | array _ ih => exact congrArg Value.array (ofJsonItems_toJsonItems ih)
  | object _ ih => exact congrArg Value.object (ofJsonMembers_toJsonMembers ih)

end Value

end Reshape
