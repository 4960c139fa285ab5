/-
Functions on arrays and objects.
-/
import Reshape.Function.Basic
import Reshape.Text.Search

namespace Reshape

namespace Value

/-- Nulls, and strings, arrays and objects without content. -/
def isEmpty : Value → Bool
  | null => true
  | string s => s.isEmpty
  | array items => items.isEmpty
  | object fields => fields.isEmpty
  | _ => false

mutual

/-- A value without the empty values in it. What becomes empty by that goes too. -/
def compact : Value → Value
  | array items => array (compactItems items)
  | object fields => object (compactFields fields)
  | other => other

def compactItems : List Value → List Value
  | [] => []
  | v :: rest => if (compact v).isEmpty then compactItems rest else compact v :: compactItems rest

def compactFields : List (String × Value) → List (String × Value)
  | [] => []
  | (k, v) :: rest =>
    if (compact v).isEmpty then compactFields rest else (k, compact v) :: compactFields rest

end

end Value

namespace Function

/-- The item may be absent; it is then null. -/
def push : Function where
  name := "push"
  parameters := [{ keyword := "value" }, { keyword := "item" }]
  body := .plain fun args => do return .array ((← args.array 0) ++ [args.value 1])

def append : Function where
  name := "append"
  parameters := [{ keyword := "value" }, { keyword := "items" }]
  body := .plain fun args => do
    let items ← args.array 0
    return .array (items ++ (← args.array 1))

/-- The length of a string is its number of characters. -/
def length : Function where
  name := "length"
  parameters := [{ keyword := "value" }]
  body := .plain fun args => do
    let count (n : Nat) : Value := .integer (Int64.ofNat n)
    match ← args.required 0 with
    | .array items => return count items.length
    | .object fields => return count fields.length
    | .string s => return count s.length
    | .bytes data => return count data.length
    | other => throw (.ofKind "array, object or string" other)

def keys : Function where
  name := "keys"
  parameters := [{ keyword := "value" }]
  body := .plain fun args => do return .array ((← args.object 0).map fun (k, _) => .string k)

def values : Function where
  name := "values"
  parameters := [{ keyword := "value" }]
  body := .plain fun args => do return .array ((← args.object 0).map fun (_, v) => v)

/-- The fields of all objects; of fields with one name the last stays. -/
def merge : Function where
  name := "merge"
  parameters := [{ keyword := "to" }, { keyword := "from" }]
  variadic := true
  body := .plain fun args => do
    let first ← args.object 0
    let others ← (List.range (args.length - 1)).mapM fun i => args.object (i + 1)
    return .object (others.foldl Fields.union first)

/-- The strings of an array. -/
def strings : List Value → Except Failure (List (List Char))
  | [] => .ok []
  | .string s :: rest => do return s.toList :: (← strings rest)
  | other :: _ => .error (.ofKind "array of strings" other)

def join : Function where
  name := "join"
  parameters := [{ keyword := "value" }, { keyword := "separator", required := false }]
  body := .plain fun args => do
    let items ← args.array 0
    let separator := (← args.optionalString 1).getD ""
    return .string (String.ofList (Text.join separator.toList (← strings items)))

def compact : Function where
  name := "compact"
  parameters := [{ keyword := "value" }]
  body := .plain fun args => do
    match ← args.required 0 with
    | .array items => return (Value.array items).compact
    | .object fields => return (Value.object fields).compact
    | other => throw (.ofKind "array or object" other)

def collectionFunctions : List Function :=
  [push, append, length, keys, values, merge, join, compact]

end Function

end Reshape
