/-
Settings documents.

A document is a series of lines: headers, which say what table the following lines are about, and keys with
values. `Document.read` gives the tree of its tables.
-/
import Reshape.Toml.Number

namespace Reshape.Toml

/-! ### Keys -/

/-- Can a key start here? -/
def atKey : Reader Bool := do
  return (← peek).any fun c => c == '"' || c == '\'' || isBareChar c

def simpleKey : Reader Key := do
  let start ← position
  let name ← match ← peek with
    | some '"' => pure (String.ofList (← basicText))
    | some '\'' => pure (String.ofList (← literalText))
    | _ =>
      let cs ← takeWhile isBareChar
      if cs.isEmpty then fail
      pure (String.ofList cs)
  return ⟨name, start, ← position⟩

/-- The keys after the first one of a dotted key. A point that no key follows is left. -/
def moreKeys : Nat → Reader (List Key)
  | 0 => return []
  | fuel + 1 => do
    blanks
    if (← peek) = some '.' then
      let before ← get
      skip
      blanks
      if ← atKey then
        let k ← simpleKey
        return k :: (← moreKeys fuel)
      set before
    return []

/-- A key has fewer parts than this, and arrays and inline tables nest less deep. -/
def greatestDepth : Nat := 80

/-- A key or a dotted key, with the blanks around it: all but its last part, and that. -/
def dottedKey : Reader (List Key × Key) := do
  let start ← position
  let keys ← within .key do
    blanks
    let first ← simpleKey
    return (first, ← moreKeys ((← get).rest.length))
  let path := keys.1 :: keys.2
  if greatestDepth ≤ path.length then failAt start none [] (some .tooDeep)
  return (path.dropLast, path.getLast (by simp [path]))

/-! ### Values -/

/-- A word that stands for a value. One that starts alike was probably meant as a string. -/
def word (text : String) (s : Scalar) : Reader Scalar := do
  if ← skipText text then return s
  fail (some .string) [.sign "\"", .sign "'"]

/-- The region from a place to here. -/
def since (start : Nat) : Reader Region :=
  return ⟨start, ← position⟩

/-- A value without parts, which starts with the character `c`. -/
def scalar (c : Char) : Reader Scalar := do
  if c.isDigit then return ← number
  match c with
  | '"' | '\'' => return .string (← text)
  | '+' | '-' => number
  | '_' => fail (some .integer) [.leadingDigit]
  | '.' => fail (some .float) [.leadingDigit]
  | 't' => word "true" (.boolean true)
  | 'f' => word "false" (.boolean false)
  | 'i' => word "inf" (.float (1.0 / 0.0))
  | _ => word "nan" (.float (0.0 / 0.0))

/-- What is no value here ends an array. -/
def atValue : Reader Bool := do
  match (← get).rest with
  | [] => return false
  | '+' :: c :: _ | '-' :: c :: _ =>
    return c.isDigit || (← sees "+inf") || (← sees "+nan") || (← sees "-inf") || (← sees "-nan")
  | c :: _ =>
    if c ∈ ['"', '\'', '[', '\x7b', 't', 'f'] || c.isDigit then return true
    return (← sees "inf") || (← sees "nan")

mutual

/-- A value, in which arrays and inline tables nest at most so deep. -/
def value (depth : Nat) : Reader Node := do
  let start ← position
  match ← peek with
  | none => fail
  | some c =>
    if c = '[' || c = '\x7b' then
      match depth with
      | 0 => fail none [] (some .tooDeep)
      | depth + 1 => if c = '[' then array depth else inlineTable depth
    else
      let s ← scalar c
      return .scalar (← since start) s
termination_by (depth, 0, 0)

/-- An array; its bracket is here. -/
def array (depth : Nat) : Reader Node := do
  let start ← position
  skip
  let items ← arrayItems depth ((← get).rest.length + 1)
  gap
  if !(← skipText "]") then fail (some .array) [.sign "]"]
  return .array (← since start) items
termination_by (depth, 2, 0)

/-- The items of an array, with the commas between and after them. -/
def arrayItems (depth : Nat) : Nat → Reader (List Node)
  | 0 => return []
  | fuel + 1 => do
    let before ← get
    gap
    if !(← atValue) then
      set before
      return []
    let item ← value depth
    gap
    if ← skipText "," then return item :: (← arrayItems depth fuel)
    return [item]
termination_by fuel => (depth, 1, fuel)

/-- An inline table; its brace is here. -/
def inlineTable (depth : Nat) : Reader Node := do
  let start ← position
  skip
  let inside ← position
  let pairs ← inlinePairs depth ((← get).rest.length + 1)
  blanks
  let node := pairs.foldlM (fun node (path, k, v) => node.insert .inline none path k v) (Node.empty .inline)
  match node with
  | .error cause => failAt inside none [] (some cause)
  | .ok node =>
    if !(← skipText "\x7d") then fail (some .inlineTable) [.sign "\x7d"]
    let region ← since start
    match node with
    | .table form _ fields => return .table form (some region) fields
    | node => return node
termination_by (depth, 2, 0)

/-- The keys and values of an inline table. A comma that no key follows is left. -/
def inlinePairs (depth : Nat) : Nat → Reader (List (List Key × Key × Node))
  | 0 => return []
  | fuel + 1 => do
    blanks
    if !(← atKey) then return []
    let (path, k) ← dottedKey
    if !(← skipText "=") then fail none [.sign ".", .sign "="]
    blanks
    let v ← value depth
    blanks
    let before ← get
    if ← skipText "," then
      blanks
      if ← atKey then return (path, k, v) :: (← inlinePairs depth fuel)
      set before
    return [(path, k, v)]
termination_by fuel => (depth, 1, fuel)

end

/-! ### Lines -/

/-- A document so far: the tree without the table that the lines are about, that table and its path. -/
structure Draft where
  root : Node := .empty .header
  current : Node := .table .header (some ⟨0, 0⟩) []
  home : List Key := []
  /-- The header of the table may be repeated. -/
  repeats : Bool := false

namespace Draft

/-- Puts the table that the lines were about into the tree. -/
def close (d : Draft) : Except Cause Node :=
  match d.home.getLast? with
  | none => .ok d.current
  | some k =>
    d.root.modify .header (fun parent => .ok <| parent.mapFields fun fields =>
      match d.repeats, lookup k.name fields with
      | true, some (Node.tables ts) => replace k.name (.tables (d.current :: ts)) fields
      | _, _ => fields ++ [(k, d.current)]) d.home.dropLast d.home.dropLast

/-- The path of a header leads to something that is there already. -/
def duplicate (path : List Key) (k : Key) : Cause :=
  .duplicateKey k.text (some (path.map Key.text))

/-- Starts the table of a header. A table that is there already is taken up only if it came about on the
way to another one. -/
def start (d : Draft) (path : List Key) (k : Key) (region : Region) : Except Cause Draft := do
  let root ← (← d.close).modify .header .ok path path
  let started (root : Node) (fields : List (Key × Node)) : Draft :=
    { root, current := .table .header (some region) fields, home := path ++ [k] }
  match root.get? (path ++ [k]) with
  | none => return started root []
  | some (Node.table .implied _ fields) =>
    return started (← root.modify .header (fun t => .ok (t.mapFields (remove k.name))) path path) fields
  | some _ => throw (duplicate path k)

/-- Starts another table of a header that may be repeated. -/
def startRepeated (d : Draft) (path : List Key) (k : Key) (region : Region) : Except Cause Draft := do
  let root ← (← d.close).modify .header .ok path path
  let started (root : Node) : Draft :=
    { root, current := .table .header (some region) [], home := path ++ [k], repeats := true }
  match root.get? (path ++ [k]) with
  | none =>
    let add (t : Node) : Except Cause Node := .ok (t.mapFields (· ++ [(k, .tables [])]))
    return started (← root.modify .header add path path)
  | some (.tables _) => return started root
  | some _ => throw (duplicate path k)

/-- Adds a value to the table that the lines are about, which then reaches up to it. -/
def add (d : Draft) (path : List Key) (k : Key) (v : Node) (stop : Nat) : Except Cause Draft := do
  let longer : Node :=
    match d.current with
    | .table form (some r) fields => .table form (some { r with stop }) fields
    | node => node
  return { d with current := ← longer.insert .dotted (some d.home) path k v }

end Draft

/-- Goes on with what a step gives, or says what is wrong with what starts at `start`. -/
def settle (start : Nat) : Except Cause Draft → Reader Draft
  | .ok d => return d
  | .error cause => failAt start none [] (some cause)

/-- A key with a value. -/
def pairLine (d : Draft) : Reader Draft := do
  let start ← position
  let (path, k) ← dottedKey
  if !(← skipText "=") then fail none [.sign ".", .sign "="]
  blanks
  let v ← value (greatestDepth - 1)
  let stop ← position
  restOfLine
  settle start (d.add path k v stop)

def headerLine (d : Draft) : Reader Draft :=
  within .tableHeader do
    let start ← position
    if (← get).rest.tail.isEmpty then fail
    let repeats ← sees "[["
    let closing := if repeats then "]]" else "]"
    skip closing.length
    let (path, k) ← dottedKey
    if !(← skipText closing) then fail none [.sign ".", .sign closing]
    let region ← since start
    restOfLine
    settle start (if repeats then d.startRepeated path k region else d.start path k region)

def lines : Nat → Draft → Reader Draft
  | 0, d => return d
  | fuel + 1, d => do
    blanks
    match ← peek with
    | none => return d
    | some '#' =>
      comment
      lineEnd
      lines fuel d
    | some '\n' | some '\r' =>
      if !(← lineBreak) then fail
      lines fuel d
    | some '[' => do lines fuel (← headerLine d)
    | some _ => do lines fuel (← pairLine d)

/-- The tables of a document. A mark of the byte order may come first. -/
def read (document : List Char) : Except Problem Node := do
  let skipped := if document.head? = some '\uFEFF' then 1 else 0
  let (d, _) ← (lines (document.length + 1) {}).run ⟨document.drop skipped, skipped⟩
  match d.close with
  | .ok root => return root
  | .error cause => throw { cause := some cause, region := ⟨document.length, document.length⟩ }

end Reshape.Toml
