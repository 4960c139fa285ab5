/-
The values of events.

An event is a tree of values with an object at its root. `Value.equal` is the equality that programs see:
integers and floats are never equal, a float is compared as a number, a timestamp as an instant.
-/
import Reshape.Fields
import Reshape.Time.Timestamp

namespace Reshape

inductive Value where
  | null
  | boolean (b : Bool)
  | integer (i : Int64)
  | float (f : Float)
  | string (s : String)
  | timestamp (t : Timestamp)
  | bytes (data : List UInt8)
  | array (items : List Value)
  | object (fields : List (String × Value))
deriving Inhabited

inductive Kind where
  | null | boolean | integer | float | string | timestamp | bytes | array | object
deriving DecidableEq, Repr

def Kind.name : Kind → String
  | null => "null"
  | boolean => "boolean"
  | integer => "integer"
  | float => "float"
  | string => "string"
  | timestamp => "timestamp"
  | bytes => "bytes"
  | array => "array"
  | object => "object"

namespace Value

def kind : Value → Kind
  | null => .null
  | boolean _ => .boolean
  | integer _ => .integer
  | float _ => .float
  | string _ => .string
  | timestamp _ => .timestamp
  | bytes _ => .bytes
  | array _ => .array
  | object _ => .object

def emptyObject : Value := object []

def isNull : Value → Bool
  | null => true
  | _ => false

mutual

/-- Equality of values as programs see it. -/
def equal : Value → Value → Bool
  | null, null => true
  | boolean a, boolean b => a == b
  | integer a, integer b => a == b
  | float a, float b => a == b
  | string a, string b => a == b
  | timestamp a, timestamp b => a.sameInstant b
  | bytes a, bytes b => a == b
  | array a, array b => equalItems a b
  | object a, object b => equalFields a b
  | _, _ => false

def equalItems : List Value → List Value → Bool
  | [], [] => true
  | a :: as, b :: bs => equal a b && equalItems as bs
  | _, _ => false

def equalFields : List (String × Value) → List (String × Value) → Bool
  | [], [] => true
  | (k, a) :: as, (l, b) :: bs => k == l && equal a b && equalFields as bs
  | _, _ => false

end

/-! ### Parts of values -/

/-- Neither an array nor an object. -/
def IsScalar (v : Value) : Prop :=
  v.kind ≠ .array ∧ v.kind ≠ .object

/-- What holds of scalars, and of arrays and objects if it holds of what is in them, holds of all values. -/
theorem inductionOn {P : Value → Prop} (scalar : ∀ v, v.IsScalar → P v)
    (array : ∀ items, (∀ v ∈ items, P v) → P (array items))
    (object : ∀ fields, (∀ f ∈ fields, P f.2) → P (object fields)) : ∀ v, P v
  | .array items => array items fun v _ => inductionOn scalar array object v
  | .object fields => object fields fun f _ => inductionOn scalar array object f.2
  | .null | .boolean _ | .integer _ | .float _ | .string _ | .timestamp _ | .bytes _ =>
    scalar _ ⟨Kind.noConfusion, Kind.noConfusion⟩
termination_by v => sizeOf v
decreasing_by
  · rename_i hv
    have := List.sizeOf_lt_of_mem hv
    simp
    omega
  · rename_i hf
    have hlt := List.sizeOf_lt_of_mem hf
    have hsize : sizeOf f = 1 + sizeOf f.1 + sizeOf f.2 := rfl
    simp
    omega

/-! ### Order of fields -/

/-- Strictly ascending names. -/
def ascending : List String → Bool
  | [] => true
  | [_] => true
  | a :: b :: rest => a < b && ascending (b :: rest)

mutual

/-- Every object in the value lists its fields by name, each name once. -/
def sorted : Value → Bool
  | array items => sortedItems items
  | object fields => ascending (fields.map (·.1)) && sortedFields fields
  | _ => true

def sortedItems : List Value → Bool
  | [] => true
  | v :: rest => sorted v && sortedItems rest

def sortedFields : List (String × Value) → Bool
  | [] => true
  | (_, v) :: rest => sorted v && sortedFields rest

end

end Value

end Reshape
