/-
Reading, writing and removing at a path.

* `Value.get?` reads a place; an absent place is not a null one;
* `Value.insert` writes a place. Missing objects on the way are created and null becomes an object; arrays
  neither grow nor appear. `Value.checkWrite` finds the first segment that cannot be followed before
  anything is written, so a refused write changes nothing;
* `Value.remove` takes a value out; the items after it move up.
-/
import Reshape.Path
import Reshape.Value.Basic

namespace Reshape

/-- Why a place cannot be written. Each case names the last place that could be reached. -/
inductive WriteError where
  | missingArray (place : Path)
  | outOfRange (place : Path) (index : Int64) (length : Nat)
  | notAnObject (place : Path) (key : String) (kind : Kind)
  | notAnArray (place : Path) (index : Int64) (kind : Kind)
deriving DecidableEq, Repr

def WriteError.message : WriteError → String
  | missingArray place => s!"cannot index into missing array at {place.text}"
  | outOfRange place index length =>
    s!"index {index} is out of range for array of length {length} at {place.text}"
  | notAnObject place key kind =>
    s!"cannot write key {quoted key} into {kind.name} at {place.text}"
  | notAnArray place index kind => s!"cannot write index {index} into {kind.name} at {place.text}"

/-- The position that an index means in an array of the given length. -/
def resolveIndex (i : Int64) (length : Nat) : Option Nat :=
  if 0 ≤ i.toInt then
    if i.toInt.toNat < length then some i.toInt.toNat else none
  else if i.toInt.natAbs ≤ length then some (length - i.toInt.natAbs) else none

namespace Value

/-- The value at a path, if the place is there. -/
def get? : Value → Path → Option Value
  | v, [] => some v
  | object fields, .key k :: rest =>
    match Fields.get? k fields with
    | some child => get? child rest
    | none => none
  | array items, .index i :: rest =>
    match (resolveIndex i items.length).bind (items[·]?) with
    | some child => get? child rest
    | none => none
  | _, _ => none

/-- Follows a path for writing. `before` holds the segments already followed and `current` the value there,
if the place exists. -/
def checkFrom : Path → Option Value → Path → Except WriteError Unit
  | _, _, [] => .ok ()
  | before, current, .key k :: rest =>
    match current with
    | some (object fields) => checkFrom (before ++ [.key k]) (Fields.get? k fields) rest
    | none | some null => checkFrom (before ++ [.key k]) none rest
    | some other => .error (.notAnObject before k other.kind)
  | before, current, .index i :: rest =>
    match current with
    | some (array items) =>
      match resolveIndex i items.length with
      | some n => checkFrom (before ++ [.index i]) items[n]? rest
      | none => .error (.outOfRange before i items.length)
    | none | some null => .error (.missingArray before)
    | some other => .error (.notAnArray before i other.kind)

/-- Whether a write at a path would succeed. -/
def checkWrite (root : Value) (path : Path) : Except WriteError Unit :=
  checkFrom [] (some root) path

/-- Writes step by step: the value that was there and the changed tree. -/
def storeFrom (new : Value) : Path → Value → Path → Except WriteError (Option Value × Value)
  | _, current, [] => .ok (some current, new)
  | before, current, .key k :: rest => do
    let fields ←
      match current with
      | object fields => .ok fields
      | null => .ok []
      | other => .error (.notAnObject before k other.kind)
    if rest.isEmpty then return (Fields.get? k fields, object (Fields.insert k new fields))
    else
      let child := (Fields.get? k fields).getD null
      let (old, child) ← storeFrom new (before ++ [.key k]) child rest
      return (old, object (Fields.insert k child fields))
  | before, current, .index i :: rest =>
    match current with
    | array items =>
      match resolveIndex i items.length with
      | some n => do
        let (old, child) ← storeFrom new (before ++ [.index i]) (items.getD n null) rest
        return (old, array (items.set n child))
      | none => .error (.outOfRange before i items.length)
    | null => .error (.missingArray before)
    | other => .error (.notAnArray before i other.kind)

/-- Writes a value at a path: the value that was there and the changed root. -/
def insert (root : Value) (path : Path) (new : Value) : Except WriteError (Option Value × Value) := do
  checkWrite root path
  storeFrom new [] root path

/-- Takes out the value that a path of at least one segment leads to: it and the tree without it. -/
def removeFrom : Value → Path → Option (Value × Value)
  | object fields, [.key k] => (Fields.get? k fields).map (·, object (Fields.erase k fields))
  | array items, [.index i] => do
    let n ← resolveIndex i items.length
    let old ← items[n]?
    return (old, array (items.eraseIdx n))
  | object fields, .key k :: rest => do
    let (old, child) ← removeFrom (← Fields.get? k fields) rest
    return (old, object (Fields.insert k child fields))
  | array items, .index i :: rest => do
    let n ← resolveIndex i items.length
    let (old, child) ← removeFrom (← items[n]?) rest
    return (old, array (items.set n child))
  | _, _ => none

/-- Removes the value at a path: what was there, if anything, and the changed root. The root itself is
replaced by an empty object. -/
def remove (root : Value) (path : Path) : Option Value × Value :=
  if path.isEmpty then (some root, emptyObject)
  else
    match removeFrom root path with
    | some (old, root') => (some old, root')
    | none => (none, root)

end Value

end Reshape
