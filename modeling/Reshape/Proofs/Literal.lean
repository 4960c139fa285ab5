/-
Values as programs.

A value that is made of null, booleans, integers, strings, arrays and objects is `Plain`.  Its text is that of an
expression, its literal; and a literal is read back and folded to one constant.

* `Value.writeAll_literal` — the text of a plain value is the text of its literal;
* `Expr.gives_constant` — an expression of literals alone is resolved to a constant;
* `Value.compile_text` — the text of a plain value is a program that is the value.
-/
import Mathlib.Data.String.Basic
import Reshape.Function.Standard
import Reshape.Proofs.Fault
import Reshape.Proofs.Printing
import Reshape.Proofs.Resolution

namespace Reshape

open Piece

/-! ### Fields in order -/

namespace Fields

variable {α : Type}

/-- A name behind all others is put at the end. -/
theorem insert_of_forall_lt {k : String} {fs : Fields α} (h : ∀ f ∈ fs, f.1 < k) (v : α) :
    insert k v fs = fs ++ [(k, v)] := by
  induction fs with
  | nil => rfl
  | cons f rest ih =>
    have hk : f.1 < k := h f List.mem_cons_self
    rw [insert, if_neg hk.asymm, if_neg hk.ne', ih fun g hg => h g (List.mem_cons_of_mem _ hg), List.cons_append]

/-- Entries in order are the fields that they give. -/
theorem ofList_of_pairwise {fs : Fields α} (h : (fs.map (·.1)).Pairwise (· < ·)) : ofList fs = fs := by
  suffices hfold : ∀ (fs acc : Fields α), ((acc ++ fs).map (·.1)).Pairwise (· < ·) →
      fs.foldl (fun fs f => insert f.1 f.2 fs) acc = acc ++ fs from hfold fs [] h
  intro fs
  induction fs with
  | nil => exact fun acc _ => (List.append_nil acc).symm
  | cons f rest ih =>
    intro acc hacc
    have hlast : ∀ g ∈ acc, g.1 < f.1 := by
      rw [List.map_append, List.pairwise_append] at hacc
      exact fun g hg => hacc.2.2 g.1 (List.mem_map_of_mem hg) f.1 List.mem_cons_self
    rw [List.foldl_cons, insert_of_forall_lt hlast, ih _ (by simpa using hacc), List.append_assoc]
    rfl

end Fields

namespace Value

theorem pairwise_of_ascending {names : List String} (h : ascending names = true) : names.Pairwise (· < ·) := by
  rw [← List.isChain_iff_pairwise]
  induction names with
  | nil => exact .nil
  | cons a rest ih =>
    cases rest with
    | nil => exact .singleton a
    | cons b rest =>
      rw [ascending, Bool.and_eq_true, decide_eq_true_iff] at h
      exact .cons_cons h.1 (ih h.2)

/-! ### Plain values -/

/-- Values that are neither floats, timestamps nor bytes, nor hold any. -/
inductive Plain : Value → Prop
  | null : Plain null
  | boolean (b : Bool) : Plain (boolean b)
  | integer (i : Int64) : Plain (integer i)
  | string (s : String) : Plain (string s)
  | array {items} : (∀ v ∈ items, Plain v) → Plain (array items)
  | object {fields} : (∀ f ∈ fields, Plain f.2) → Plain (object fields)

mutual

/-- The expression that a program would have for a value.  The one for bytes is their text. -/
def literal : Value → Expr
  | null => .literal default .null
  | boolean b => .literal default (.boolean b)
  | integer i => .literal default (.integer i)
  | float f => .literal default (.float f)
  | string s => .literal default (.string s)
  | timestamp t => .literal default (.timestamp t)
  | bytes data => .literal default (.string (String.ofList (Text.decodeLossy data)))
  | array items => .array default (literalAll items)
  | object fields => .object default (literalFields fields)

def literalAll : List Value → List Expr
  | [] => []
  | v :: rest => literal v :: literalAll rest

def literalFields : List (String × Value) → List (String × Expr)
  | [] => []
  | (k, v) :: rest => (k, literal v) :: literalFields rest

end

theorem literalAll_eq_map (items : List Value) : literalAll items = items.map literal := by
  induction items with
  | nil => rfl
  | cons v rest ih => exact congrArg (literal v :: ·) ih

theorem literalFields_eq_map (fields : List (String × Value)) :
    literalFields fields = fields.map fun f => (f.1, literal f.2) := by
  induction fields with
  | nil => rfl
  | cons f rest ih => exact congrArg ((f.1, literal f.2) :: ·) ih

/-! ### Literals as text -/

theorem writeAll_commas_cons_cons (ps qs : List Piece) (pss : List (List Piece)) :
    writeAll (commas (ps :: qs :: pss)) = writeAll ps ++ ',' :: ' ' :: writeAll (commas (qs :: pss)) := by
  rw [commas, List.intercalate_cons_cons, writeAll, List.append_assoc, List.flatMap_append]
  rfl

theorem writeAll_commas_literalAll {items : List Value} (h : ∀ v ∈ items, writeAll v.literal.pieces = v.write) :
    writeAll (commas (Expr.piecesAll (literalAll items))) = writeItems items := by
  induction items with
  | nil => rfl
  | cons v rest ih =>
    have hv := h v List.mem_cons_self
    have hrest := ih fun w hw => h w (List.mem_cons_of_mem _ hw)
    cases rest with
    | nil =>
      rw [literalAll, literalAll, Expr.piecesAll, Expr.piecesAll, commas, List.intercalate_singleton, hv]
      rfl
    | cons w rest =>
      rw [literalAll, literalAll, Expr.piecesAll, Expr.piecesAll, writeAll_commas_cons_cons, hv]
      exact congrArg (v.write ++ ',' :: ' ' :: ·) hrest

theorem writeAll_entry (k : String) {v : Value} (h : writeAll v.literal.pieces = v.write) :
    writeAll (.token (.string k) :: .token .colon :: .blank :: v.literal.pieces) =
      Text.Quoted.quote k.toList ++ ':' :: ' ' :: v.write := by
  have hquoted : (TokenKind.string k).write = Text.Quoted.quote k.toList := String.toList_ofList
  rw [← h, ← hquoted]
  rfl

theorem writeAll_commas_literalFields {fields : List (String × Value)}
    (h : ∀ f ∈ fields, writeAll f.2.literal.pieces = f.2.write) :
    writeAll (commas (Expr.piecesEntries (literalFields fields))) = writeFields fields := by
  induction fields with
  | nil => rfl
  | cons f rest ih =>
    obtain ⟨k, v⟩ := f
    have hentry := writeAll_entry k (h (k, v) List.mem_cons_self)
    have hrest := ih fun g hg => h g (List.mem_cons_of_mem _ hg)
    cases rest with
    | nil =>
      rw [literalFields, literalFields, Expr.piecesEntries, Expr.piecesEntries, commas, List.intercalate_singleton,
        hentry]
      rfl
    | cons g rest =>
      rw [literalFields, literalFields, Expr.piecesEntries, Expr.piecesEntries, writeAll_commas_cons_cons, hentry,
        writeFields]
      · exact congrArg (_ ++ ',' :: ' ' :: ·) hrest
      · exact fun h => by cases h

/-- The text of a plain value is the text of its literal. -/
theorem Plain.writeAll_literal {v : Value} (h : v.Plain) : writeAll v.literal.pieces = v.write := by
  induction h with
  | null => rfl
  | boolean b => cases b <;> rfl
  | integer i => exact (List.append_nil _).trans String.toList_ofList
  | string s => exact (List.append_nil _).trans String.toList_ofList
  | @array items _ ih =>
    rw [literal, Expr.pieces, write, ← writeAll_commas_literalAll ih, writeAll, List.flatMap_append]
    rfl
  | @object fields _ ih =>
    rw [literal, Expr.pieces, write, ← writeAll_commas_literalFields ih, writeAll, List.flatMap_append]
    rfl

theorem Plain.text_eq_programText {v : Value} (h : v.Plain) : v.text = Expr.programText [v.literal] := by
  rw [text, Expr.programText, Expr.piecesAll, Expr.piecesAll, lines, List.intercalate_singleton, h.writeAll_literal]

theorem Plain.formed_literal {v : Value} (h : v.Plain) : v.literal.Formed := by
  induction h with
  | null | integer i | string s => exact .literal trivial
  | boolean b => cases b <;> exact .literal trivial
  | array _ ih =>
    refine .array ?_
    rw [literalAll_eq_map]
    exact List.forall_mem_map.2 ih
  | object _ ih =>
    refine .object ?_
    rw [literalFields_eq_map]
    exact List.forall_mem_map.2 ih

end Value

/-! ### Folding -/

namespace Expr

mutual

/-- The value of an expression of literals alone. -/
def value? : Expr → Option Value
  | literal _ v => some v.value
  | array _ items => (valueAll? items).map .array
  | object _ entries => (valueEntries? entries).map fun fields => .object (Fields.ofList fields)
  | _ => none

def valueAll? : List Expr → Option (List Value)
  | [] => some []
  | e :: rest => do return (← value? e) :: (← valueAll? rest)

def valueEntries? : List (String × Expr) → Option (List (String × Value))
  | [] => some []
  | (k, e) :: rest => do return (k, ← value? e) :: (← valueEntries? rest)

end

mutual

theorem value?_bare : ∀ e : Expr, e.bare.value? = e.value?
  | literal _ _ | path _ _ | access _ _ _ | assign _ _ _ | assignPair _ _ _ _ | call _ _ _ | binary _ _ _ _
  | unary _ _ _ | branch _ _ _ none | branch _ _ _ (some _) | block _ _ | delete _ _ _ => rfl
  | array _ items => congrArg (Option.map Value.array) (valueAll?_bareAll items)
  | object _ entries => congrArg (Option.map _) (valueEntries?_bareEntries entries)

theorem valueAll?_bareAll : ∀ es : List Expr, valueAll? (bareAll es) = valueAll? es
  | [] => rfl
  | e :: rest => by rw [bareAll, valueAll?, valueAll?, value?_bare e, valueAll?_bareAll rest]

theorem valueEntries?_bareEntries : ∀ entries : List (String × Expr),
    valueEntries? (bareEntries entries) = valueEntries? entries
  | [] => rfl
  | (k, e) :: rest => by
    rw [bareEntries, valueEntries?, valueEntries?, value?_bare e, valueEntries?_bareEntries rest]

end

open Resolution

variable (library : Library)

mutual

/-- An expression of literals alone is resolved to one constant. -/
theorem gives_constant : ∀ (e : Expr) {v : Value}, e.value? = some v → (e.resolve library).Gives (.constant e.span v)
  | literal s w, v, h => by
    obtain rfl : w.value = v := Option.some.inj h
    exact gives_pure.2 rfl
  | array s items, v, h => by
    obtain ⟨values, hvalues, rfl⟩ := Option.map_eq_some_iff.1 h
    obtain ⟨nodes, hnodes, hconstants⟩ := gives_constants items hvalues
    refine gives_map.2 ⟨nodes, hnodes, ?_⟩
    rw [Node.foldArray, hconstants]
    rfl
  | object s entries, v, h => by
    obtain ⟨values, hvalues, rfl⟩ := Option.map_eq_some_iff.1 h
    obtain ⟨nodes, hnodes, hconstants⟩ := gives_constantEntries entries hvalues
    refine gives_map.2 ⟨nodes, hnodes, ?_⟩
    rw [Node.foldObject, hconstants]
    rfl

theorem gives_constants : ∀ (es : List Expr) {values : List Value}, valueAll? es = some values →
    ∃ nodes, (resolveAll library es).Gives nodes ∧ Node.constants? nodes = some values
  | [], values, h => ⟨[], gives_pure.2 rfl, h⟩
  | e :: rest, values, h => by
    simp only [valueAll?, Option.pure_def, Option.bind_eq_bind, Option.bind_eq_some_iff, Option.some_inj] at h
    obtain ⟨v, hv, vs, hvs, rfl⟩ := h
    obtain ⟨nodes, hnodes, hconstants⟩ := gives_constants rest hvs
    refine ⟨_, gives_zipWith.2 ⟨_, nodes, gives_constant e hv, hnodes, rfl⟩, ?_⟩
    rw [Node.constants?, hconstants]
    rfl

theorem gives_constantEntries : ∀ (entries : List (String × Expr)) {values : List (String × Value)},
    valueEntries? entries = some values →
    ∃ nodes, (resolveEntries library entries).Gives nodes ∧ Node.constantEntries? nodes = some values
  | [], values, h => ⟨[], gives_pure.2 rfl, h⟩
  | (k, e) :: rest, values, h => by
    simp only [valueEntries?, Option.pure_def, Option.bind_eq_bind, Option.bind_eq_some_iff, Option.some_inj] at h
    obtain ⟨v, hv, vs, hvs, rfl⟩ := h
    obtain ⟨nodes, hnodes, hconstants⟩ := gives_constantEntries rest hvs
    refine ⟨_, gives_zipWith.2 ⟨_, nodes, gives_constant e hv, hnodes, rfl⟩, ?_⟩
    rw [Node.constantEntries?, hconstants]
    rfl

end

end Expr

namespace Value

theorem valueAll?_literalAll {items : List Value} (h : ∀ v ∈ items, v.literal.value? = some v) :
    Expr.valueAll? (literalAll items) = some items := by
  induction items with
  | nil => rfl
  | cons v rest ih =>
    rw [literalAll, Expr.valueAll?, h v List.mem_cons_self, ih fun w hw => h w (List.mem_cons_of_mem _ hw)]
    rfl

theorem valueEntries?_literalFields {fields : List (String × Value)} (h : ∀ f ∈ fields, f.2.literal.value? = some f.2) :
    Expr.valueEntries? (literalFields fields) = some fields := by
  induction fields with
  | nil => rfl
  | cons f rest ih =>
    obtain ⟨k, v⟩ := f
    rw [literalFields, Expr.valueEntries?, h (k, v) List.mem_cons_self,
      ih fun g hg => h g (List.mem_cons_of_mem _ hg)]
    rfl

theorem sorted_of_mem_items {items : List Value} (h : sortedItems items = true) {v : Value} (hv : v ∈ items) :
    v.sorted = true := by
  induction hv with
  | head rest => exact (Bool.and_eq_true_iff.1 h).1
  | tail w _ ih => exact ih (Bool.and_eq_true_iff.1 h).2

theorem sorted_of_mem_fields {fields : List (String × Value)} (h : sortedFields fields = true) {f : String × Value}
    (hf : f ∈ fields) : f.2.sorted = true := by
  induction hf with
  | head rest => exact (Bool.and_eq_true_iff.1 h).1
  | tail g _ ih => exact ih (Bool.and_eq_true_iff.1 h).2

/-- The literal of a plain value that lists fields in order has that value. -/
theorem Plain.value?_literal {v : Value} (h : v.Plain) (hsorted : v.sorted = true) : v.literal.value? = some v := by
  induction h with
  | null | boolean b | integer i | string s => rfl
  | array _ ih =>
    have hitems := valueAll?_literalAll fun v hv => ih v hv (sorted_of_mem_items hsorted hv)
    rw [literal, Expr.value?, hitems]
    rfl
  | object _ ih =>
    rw [sorted, Bool.and_eq_true] at hsorted
    have hfields := valueEntries?_literalFields fun f hf => ih f hf (sorted_of_mem_fields hsorted.2 hf)
    rw [literal, Expr.value?, hfields, Option.map_some,
      Fields.ofList_of_pairwise (pairwise_of_ascending hsorted.1)]

/-- The text of a plain value, whose objects list their fields in order, is a program of one constant, which is that
value: running it on any event ends with the value and leaves the event as it was. -/
theorem compile_text (library : Library) {v : Value} (h : v.Plain) (hsorted : v.sorted = true) :
    ∃ span, compile library v.text = .ok ⟨v.text, [.constant span v]⟩ ∧
      ∀ (s : Surroundings) (event : Value), event.kind = .object →
        Program.run ⟨v.text, [.constant span v]⟩ s event = ⟨.ok v, event⟩ := by
  obtain ⟨ts, es, hts, hes, hes'⟩ := Expr.parse_programText (List.forall_mem_singleton.2 h.formed_literal.stated)
  obtain ⟨e, rfl, hbare⟩ := List.map_eq_singleton_iff.1 hes'
  rw [← h.text_eq_programText] at hts
  have hvalue : e.value? = some v := by
    rw [← e.value?_bare, hbare, Expr.value?_bare, h.value?_literal hsorted]
  refine ⟨e.span, compile_eq_ok.2 ⟨by rw [hts], [e], by rw [hts, hes], rfl, ?_⟩, fun s event hevent => ?_⟩
  · exact Resolution.gives_zipWith.2 ⟨_, [], e.gives_constant library hvalue, Resolution.gives_pure.2 rfl, rfl⟩
  · rw [Program.run_of_object _ s hevent]
    rfl

/-- The least integer in an array, an empty object, and a name that has to be escaped. -/
theorem compile_text_nested :
    ∃ v span, v = object [("\"\n", object []), ("a", array [integer Int64.minValue, boolean true])] ∧
      v.Plain ∧ v.sorted = true ∧
      v.text = "\x7b \"\\\"\\n\": \x7b  \x7d, \"a\": [-9223372036854775808, true] \x7d" ∧
      compile Library.standard v.text = .ok ⟨v.text, [.constant span v]⟩ ∧
      Program.run ⟨v.text, [.constant span v]⟩ ⟨.fixed "UTC" 0, ⟨0, 0, 0⟩, 0⟩ emptyObject = ⟨.ok v, emptyObject⟩ := by
  have hplain : Plain (object [("\"\n", object []), ("a", array [integer Int64.minValue, boolean true])]) := by
    refine .object (List.forall_mem_cons.2 ⟨.object (List.forall_mem_nil _), List.forall_mem_singleton.2 (.array ?_)⟩)
    exact List.forall_mem_cons.2 ⟨.integer _, List.forall_mem_singleton.2 (.boolean true)⟩
  have hsorted : sorted (object [("\"\n", object []), ("a", array [integer Int64.minValue, boolean true])]) = true := by
    decide +kernel
  obtain ⟨span, hcompile, hrun⟩ := compile_text Library.standard hplain hsorted
  exact ⟨_, span, rfl, hplain, hsorted, by decide +kernel, hcompile, hrun _ _ rfl⟩

end Value

end Reshape
