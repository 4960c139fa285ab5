/-
Trees of settings.

A table knows how it came about, since that decides what may be added to it: by a header, by being on the
way to one, by a dotted key, or inline. `Node.insert` adds a value and `Node.detach` takes out the table that a
header is about; both refuse what is there already.
-/
import Reshape.Toml.Problem

namespace Reshape.Toml

inductive Scalar where
  | string (s : String)
  | integer (i : Int)
  | float (f : Float)
  | boolean (b : Bool)
  | dateTime

structure Key where
  name : String
  region : Region
deriving DecidableEq, Repr

inductive Form where
  | header | implied | dotted | inline
deriving DecidableEq, Repr

inductive Node where
  | scalar (region : Region) (s : Scalar)
  | array (region : Region) (items : List Node)
  | table (form : Form) (region : Option Region) (fields : List (Key × Node))
  /-- The tables of a repeated header, the last one first. -/
  | tables (items : List Node)

namespace Node

/-- The kind of a value, for a table that is none. -/
def valueKind? : Node → Option String
  | scalar _ (.string _) => some "string"
  | scalar _ (.integer _) => some "integer"
  | scalar _ (.float _) => some "float"
  | scalar _ (.boolean _) => some "boolean"
  | scalar _ .dateTime => some "datetime"
  | array .. => some "array"
  | table .inline .. => some "inline table"
  | table .. | tables _ => none

def empty (form : Form) : Node :=
  table form none []

end Node

/-! ### Keys -/

def isBareChar (c : Char) : Bool :=
  c.isAlphanum || c == '-' || c == '_'

/-- A key as it may be written. -/
def Key.text (k : Key) : String :=
  if k.name != "" && k.name.toList.all isBareChar then k.name else "\"" ++ k.name ++ "\""

/-- The value of a key. -/
def lookup (name : String) (fields : List (Key × Node)) : Option Node :=
  (fields.find? (·.1.name == name)).map (·.2)

/-- Gives a key another value. -/
def replace (name : String) (node : Node) (fields : List (Key × Node)) : List (Key × Node) :=
  fields.map fun (k, n) => if k.name == name then (k, node) else (k, n)

def remove (name : String) (fields : List (Key × Node)) : List (Key × Node) :=
  fields.filter fun (k, _) => k.name != name

/-! ### Changes below a path -/

/-- How a path is followed: by the keys of a header, by those of a dotted key, or by those of a dotted key
in an inline table. -/
inductive Route where
  | header | dotted | inline
deriving DecidableEq

/-- The form of a table that comes about on the way. -/
def Route.form : Route → Form
  | header => .implied
  | dotted | inline => .dotted

/-- A dotted key only leads into tables that came about on the way. -/
def Route.mayEnter (route : Route) (form : Form) : Bool :=
  route == .header || form == .implied || form == .dotted

/-- Changes the table at the end of a path. Tables on the way that are missing come about; of the tables of
a repeated header the last one is meant. -/
def Node.modify (route : Route) (change : Node → Except Cause Node) (whole : List Key) :
    List Key → Node → Except Cause Node
  | [], node => change node
  | k :: path, table form region fields =>
    match lookup k.name fields with
    | none => do
      let node ← modify route change whole path (.empty route.form)
      return table form region (fields ++ [(k, node)])
    | some (tables (last :: earlier)) => do
      let node ← modify route change whole path last
      return table form region (replace k.name (tables (node :: earlier)) fields)
    | some (table .inline ..) =>
      if route = .inline then .error (.duplicateKey k.name none)
      else .error (.notTable ((whole.take (whole.length - path.length)).map Key.text) "inline table")
    | some (table inner r fs) =>
      if !route.mayEnter inner then .error (.duplicateKey k.name none)
      else do
        let node ← modify route change whole path (table inner r fs)
        return table form region (replace k.name node fields)
    | some other =>
      .error (.notTable ((whole.take (whole.length - path.length)).map Key.text)
        (other.valueKind?.getD "table"))
  | _ :: _, node => .ok node

/-- Adds the value of a key, behind a path of other keys. `home` is the path of the table that all this is
in, if it is known. -/
def Node.insert (node : Node) (route : Route) (home : Option (List Key)) (path : List Key) (k : Key)
    (value : Node) : Except Cause Node :=
  let add : Node → Except Cause Node
    | table form region fields =>
      if (form == .dotted) == path.isEmpty then .error (.duplicateKey k.name none)
      else if (lookup k.name fields).isSome then
        .error (.duplicateKey k.name (home.map (·.map Key.text)))
      else .ok (table form region (fields ++ [(k, value)]))
    | other => .ok other
  node.modify route add path path

/-- The table or value behind a path; of the tables of a repeated header the last one. -/
def Node.get? : List Key → Node → Option Node
  | [], node => some node
  | k :: path, table _ _ fields =>
    match lookup k.name fields with
    | some (tables (last :: _)) => if path.isEmpty then some (tables [last]) else last.get? path
    | some node => node.get? path
    | none => none
  | _ :: _, _ => none

/-- Changes the fields of a table. -/
def Node.mapFields (change : List (Key × Node) → List (Key × Node)) : Node → Node
  | table form region fields => table form region (change fields)
  | node => node

end Reshape.Toml
