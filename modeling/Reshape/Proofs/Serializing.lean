/-
Two ways from a value to JSON.

A value is converted to a document, and it can be serialized: shown part by part to something that makes of the parts
what it likes.  One serializer makes documents, and another writes text without a document between.  Whatever the
value is, the documents are equal, and the text is that of the document.

* `Value.serialize` — a value shown to a serializer;
* `Value.serialize_document` — the document that is made, one member after the other, is the one of `Value.toJson`;
* `Value.writeJson_eq_serialize`, `Value.write_toJson` — the text that is written, directly and of the document;
* `Value.serialize_agrees` — all of them.
-/
import Reshape.Proofs.Transcript
import Reshape.Value.Json

namespace Reshape

/-- What is made of a value and its parts.  Items and members come in their order. -/
structure Serializer (α : Type) where
  null : α
  boolean : Bool → α
  integer : Int64 → α
  float : Float → α
  string : String → α
  array : List α → α
  object : List (String × α) → α

namespace Serializer

/-- The text of a member, given that of its value. -/
def memberText (name : String) (value : List Char) : List Char :=
  Json.writeString name ++ ':' :: value

/-- Makes documents.  The members of an object are put into it one after the other, and a float that is no number is
null. -/
def document : Serializer Json where
  null := .null
  boolean := .boolean
  integer i := .number (.ofInt64 i)
  float f := if f.isFinite then .number (.float f) else .null
  string := .string
  array := .array
  object members := .object (Fields.ofList members)

/-- Writes text without blanks. -/
def text : Serializer (List Char) where
  null := ['n', 'u', 'l', 'l']
  boolean b := if b then ['t', 'r', 'u', 'e'] else ['f', 'a', 'l', 's', 'e']
  integer i := intText i.toInt
  float f := if f.isFinite then (Layout.json.write f).toList else ['n', 'u', 'l', 'l']
  string := Json.writeString
  array items := '[' :: [','].intercalate items ++ [']']
  object members :=
    '\x7b' :: [','].intercalate (members.map fun m => memberText m.1 m.2) ++ ['\x7d']

end Serializer

namespace Value

open Serializer (memberText)

variable {α : Type}

mutual

/-- Shows a value to a serializer.  Floats that are no number are shown as null, timestamps and bytes as text. -/
def serialize (S : Serializer α) : Value → α
  | null => S.null
  | boolean b => S.boolean b
  | integer i => S.integer i
  | float f => if f.isFinite then S.float f else S.null
  | string s => S.string s
  | timestamp t => S.string t.internet
  | bytes data => S.string (String.ofList (Text.decodeLossy data))
  | array items => S.array (serializeItems S items)
  | object fields => S.object (serializeFields S fields)

def serializeItems (S : Serializer α) : List Value → List α
  | [] => []
  | v :: rest => serialize S v :: serializeItems S rest

def serializeFields (S : Serializer α) : List (String × Value) → List (String × α)
  | [] => []
  | (k, v) :: rest => (k, serialize S v) :: serializeFields S rest

end

theorem serializeItems_eq_map (S : Serializer α) (items : List Value) :
    serializeItems S items = items.map (serialize S) := by
  induction items with
  | nil => rfl
  | cons v rest ih => exact congrArg (v.serialize S :: ·) ih

theorem serializeFields_eq_map (S : Serializer α) (fields : List (String × Value)) :
    serializeFields S fields = fields.map fun f => (f.1, f.2.serialize S) := by
  induction fields with
  | nil => rfl
  | cons f rest ih => exact congrArg ((f.1, f.2.serialize S) :: ·) ih

/-! ### Documents -/

/-- The document that is made of a value. -/
theorem serialize_document {v : Value} (h : v.sorted = true) : v.serialize .document = v.toJson := by
  induction v using inductionOn with
  | scalar v hv =>
    cases v with
    | float f =>
      rw [serialize, toJson]
      split
      · rename_i hf
        exact if_pos hf
      · rfl
    | array items => exact absurd rfl hv.1
    | object fields => exact absurd rfl hv.2
    | _ => rfl
  | array items ih =>
    have hitems : items.map (serialize .document) = items.map toJson :=
      List.map_congr_left fun v hv => ih v hv (sorted_of_mem_items h hv)
    rw [serialize, toJson, serializeItems_eq_map, hitems, toJsonItems_eq_map]
    rfl
  | object fields ih =>
    rw [sorted, Bool.and_eq_true] at h
    have hfields : (fields.map fun f => (f.1, f.2.serialize .document)) = fields.map fun f => (f.1, f.2.toJson) :=
      List.map_congr_left fun f hf => by rw [ih f hf (sorted_of_mem_fields h.2 hf)]
    have hnames : ((fields.map fun f => (f.1, f.2.toJson)).map (·.1)).Pairwise (· < ·) := by
      rw [List.map_map]
      exact pairwise_of_ascending h.1
    rw [serialize, toJson, serializeFields_eq_map, hfields, toJsonMembers_eq_map]
    exact congrArg Json.object (Fields.ofList_of_pairwise hnames)

/-! ### Text -/

/-- A text that puts a comma behind each part but the last. -/
theorem eq_intercalate {β : Type} {join : List β → List Char} {part : β → List Char} (hnil : join [] = [])
    (hlast : ∀ b, join [b] = part b) (hcons : ∀ b c rest, join (b :: c :: rest) = part b ++ ',' :: join (c :: rest))
    (bs : List β) : join bs = [','].intercalate (bs.map part) := by
  induction bs with
  | nil => exact hnil
  | cons b rest ih =>
    cases rest with
    | nil => exact (hlast b).trans List.intercalate_singleton.symm
    | cons c rest =>
      rw [hcons, ih]
      simp only [List.map_cons, List.intercalate_cons_cons, List.append_assoc, List.singleton_append]

theorem writeItems_eq (items : List Json) : Json.writeItems items = [','].intercalate (items.map Json.write) :=
  eq_intercalate rfl (fun _ => rfl) (fun _ _ _ => rfl) items

theorem writeMembers_eq (members : List (String × Json)) :
    Json.writeMembers members = [','].intercalate (members.map fun m => memberText m.1 m.2.write) :=
  eq_intercalate rfl (fun _ => rfl) (fun _ _ _ => rfl) members

theorem writeJsonItems_eq (items : List Value) : writeJsonItems items = [','].intercalate (items.map writeJson) :=
  eq_intercalate rfl (fun _ => rfl) (fun _ _ _ => rfl) items

theorem writeJsonMembers_eq (fields : List (String × Value)) :
    writeJsonMembers fields = [','].intercalate (fields.map fun f => memberText f.1 f.2.writeJson) :=
  eq_intercalate rfl (fun _ => rfl) (fun _ _ _ => rfl) fields

theorem writeJson_integer (i : Int64) : (integer i).writeJson = intText i.toInt := by
  have hsign : i < 0 ↔ i.toInt < 0 := Int64.lt_iff_toInt_lt
  simp only [writeJson, intText, hsign]

/-- An integer is written as a number of a document is, which holds what is positive without sign. -/
theorem writeNumber_ofInt64 (i : Int64) : Json.writeNumber (.ofInt64 i) = intText i.toInt := by
  have hsign : 0 ≤ i ↔ ¬i.toInt < 0 := Int64.le_iff_toInt_le.trans Int.not_lt.symm
  rw [JsonNumber.ofInt64, intText]
  by_cases h : 0 ≤ i
  · have hnat : i.toUInt64.toNat = i.toInt.natAbs := by
      have hi : 0 ≤ i.toInt := Int64.le_iff_toInt_le.1 h
      rw [Int64.toNat_toUInt64_of_le h, ← Int64.toNat_toInt]
      omega
    rw [if_pos h, if_neg (hsign.1 h), Json.writeNumber, hnat]
  · rw [if_neg h, if_pos (by rwa [hsign, not_not] at h), Json.writeNumber]

/-- The text of a value that is written without a document between. -/
theorem writeJson_eq_serialize (v : Value) : v.writeJson = v.serialize .text := by
  induction v using inductionOn with
  | scalar v hv =>
    cases v with
    | boolean b => cases b <;> rfl
    | integer i => exact writeJson_integer i
    | float f =>
      rw [writeJson, serialize]
      split
      · rename_i hf
        exact (if_pos hf).symm
      · rfl
    | array items => exact absurd rfl hv.1
    | object fields => exact absurd rfl hv.2
    | _ => rfl
  | array items ih =>
    rw [writeJson, writeJsonItems_eq, List.map_congr_left ih, serialize, serializeItems_eq_map]
    rfl
  | object fields ih =>
    have hfields : (fields.map fun f => memberText f.1 f.2.writeJson) =
        fields.map fun f => memberText f.1 (f.2.serialize .text) :=
      List.map_congr_left fun f hf => by rw [ih f hf]
    have hmembers : (fields.map fun f => memberText f.1 (f.2.serialize .text)) =
        (fields.map fun f => (f.1, f.2.serialize .text)).map fun m => memberText m.1 m.2 := by
      rw [List.map_map]
      rfl
    rw [writeJson, writeJsonMembers_eq, hfields, hmembers, serialize, serializeFields_eq_map]
    rfl

/-- The text of the document of a value. -/
theorem write_toJson (v : Value) : v.toJson.write = v.writeJson := by
  induction v using inductionOn with
  | scalar v hv =>
    cases v with
    | boolean b => cases b <;> rfl
    | integer i => exact (writeNumber_ofInt64 i).trans (writeJson_integer i).symm
    | float f =>
      rw [toJson, writeJson]
      split <;> rfl
    | array items => exact absurd rfl hv.1
    | object fields => exact absurd rfl hv.2
    | _ => rfl
  | array items ih =>
    rw [toJson, Json.write, toJsonItems_eq_map, writeItems_eq, List.map_map, writeJson, writeJsonItems_eq,
      ← List.map_congr_left ih]
    rfl
  | object fields ih =>
    have hfields : (fields.map fun f => memberText f.1 f.2.toJson.write) =
        fields.map fun f => memberText f.1 f.2.writeJson :=
      List.map_congr_left fun f hf => by rw [ih f hf]
    rw [toJson, Json.write, toJsonMembers_eq_map, writeMembers_eq, List.map_map, writeJson, writeJsonMembers_eq,
      ← hfields]
    rfl

/-- The two ways to JSON agree on every value, whose objects list their fields in order: one makes the document that
the other makes, and the text that it writes is the text of that document. -/
theorem serialize_agrees {v : Value} (h : v.sorted = true) :
    v.serialize .document = v.toJson ∧ (v.serialize .document).render = v.toJson.render ∧
      String.ofList (v.serialize .text) = v.jsonText ∧ v.jsonText = v.toJson.render := by
  have hdocument : v.serialize .document = v.toJson := serialize_document h
  refine ⟨hdocument, congrArg Json.render hdocument, ?_, ?_⟩
  · rw [jsonText, writeJson_eq_serialize]
  · rw [jsonText, Json.render, write_toJson]

/-- A float that is no number, a leap second, and bytes that are no text, in containers. -/
theorem serialize_agrees_nested :
    let v : Value := .object [("a", .array [.float (0.0 / 0.0), .object [("é", .null)]]),
      ("b", .timestamp ⟨1483228799, 1500000000, 3600⟩), ("c", .bytes [0xFF, 0x41])]
    v.sorted = true ∧ v.serialize .document = v.toJson ∧ v.jsonText = v.toJson.render := by
  intro v
  have hsorted : v.sorted = true := by decide +kernel
  obtain ⟨hdocument, -, -, htext⟩ := serialize_agrees hsorted
  exact ⟨hsorted, hdocument, htext⟩

end Value

end Reshape
