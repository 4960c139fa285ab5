/-
Settings of a run.

The time zone comes from an argument, from the environment or from a document with the tables `runtime` and
`logging`; other keys of a document are ignored. Without one the zone is the host's.
-/
import Reshape.File
import Reshape.Number.Layout
import Reshape.Text.Quoted
import Reshape.Time.Zone.Named
import Reshape.Toml.Document

namespace Reshape

inductive SettingsError where
  | badZone (e : ZoneError)
  /-- The file of the document cannot be read. -/
  | unreadable (e : FileError)
  | malformed (document : String) (p : Toml.Problem)
deriving DecidableEq, Repr

def SettingsError.message : SettingsError → String
  | badZone e => s!"invalid argument: {e.message}"
  | unreadable e => s!"failed to read configuration file: {e.message}"
  | malformed document p => s!"failed to parse configuration: {p.render document.toList}"

/-- The parts of a malformed document's problem, for a reader who looks for their source. -/
def malformedDetails (document : String) (p : Toml.Problem) : String :=
  let bytes (chars : Nat) : String := toString (Text.utf8Length (document.toList.take chars))
  "Error \x7b inner: Error \x7b inner: TomlError \x7b message: " ++ quoted p.message
    ++ ", raw: Some(" ++ quoted document ++ "), keys: [" ++ ", ".intercalate (p.keys.map quoted)
    ++ "], span: Some(" ++ bytes p.region.start ++ ".." ++ bytes p.region.stop ++ ") \x7d \x7d \x7d"

/-- The error with its parts. -/
def SettingsError.details : SettingsError → String
  | badZone e => "InvalidArgument(" ++ quoted e.message ++ ")"
  | unreadable e => "Io(" ++ e.details ++ ")"
  | malformed document p => "Parse(" ++ malformedDetails document p ++ ")"

structure Settings where
  zone : Zone
  logLevel : Option String := none
deriving Repr

namespace Settings

open Toml (Node Scalar Key Region Problem)

def ofZoneName? (name : Option String) : Except SettingsError Settings :=
  match name with
  | none => .ok { zone := Zone.host }
  | some name => ((Zone.named name).map fun zone => { zone }).mapError .badZone

/-! ### Documents -/

/-- How floats are shown in errors. -/
def floatLayout : Layout :=
  { Layout.plain with keepsFraction := true }

/-- What a value of the wrong type is called. -/
def kindText : Node → String
  | .scalar _ (.string s) => s!"string {quoted s}"
  | .scalar _ (.integer i) => s!"integer `{i}`"
  | .scalar _ (.float f) => s!"floating point `{floatLayout.write f}`"
  | .scalar _ (.boolean b) => s!"boolean `{b}`"
  | .scalar _ .dateTime | .table .. => "map"
  | .array .. | .tables _ => "sequence"

/-- The region of a value, where it has one of its own. -/
def regionOf (around : Region) : Node → Region
  | .scalar r _ | .array r _ => r
  | .table _ r _ => r.getD around
  | .tables _ => around

def wrongType (around : Region) (node : Node) (expected : String) : Problem :=
  { cause := some (.wrongType (kindText node) expected), region := regionOf around node }

def stringOf (around : Region) : Node → Except Problem String
  | .scalar _ (.string s) => .ok s
  | node => .error (wrongType around node "a string")

/-- A value below a key; what is wrong with it is wrong below the key too. -/
def below {α : Type} (name : String) (e : Except Problem α) : Except Problem α :=
  e.mapError fun p => { p with keys := name :: p.keys }

/-- The string of a key in a table, which stands for a section. A list stands for its only field. -/
def sectionField (sectionName : String) (field : String) (around : Region) (node : Node) :
    Except Problem (Option String) :=
  let expected := s!"struct {sectionName}"
  match node with
  | .table _ _ fields =>
    match fields.find? (·.1.name == field) with
    | some (k, v) => below field ((stringOf k.region v).map some)
    | none => .ok none
  | .scalar _ .dateTime => .ok none
  | .array r [] => .error { cause := some (.tooShort expected), region := r }
  | .array r (first :: _) => (stringOf r first).map some
  | .tables items =>
    match items.getLast? with
    | some first => (stringOf around first).map some
    | none => .ok none
  | node => .error (wrongType around node expected)

/-- The zone name and the log level of a document, read in the order of its keys. -/
def ofFields : List (Key × Node) → Except Problem (Option String × Option String)
  | [] => .ok (none, none)
  | (k, node) :: rest => do
    if k.name = "runtime" then
      let zone ← below k.name (sectionField "RuntimeSection" "timezone" k.region node)
      return (zone, (← ofFields rest).2)
    else if k.name = "logging" then
      let level ← below k.name (sectionField "LoggingSection" "level" k.region node)
      return ((← ofFields rest).1, level)
    else ofFields rest

def ofDocument (document : String) : Except SettingsError Settings :=
  let names := do
    match ← Toml.read document.toList with
    | .table _ _ fields => ofFields fields
    | _ => return (none, none)
  match names with
  | .error p => .error (.malformed document p)
  | .ok (zone, logLevel) => do
    let settings ← ofZoneName? zone
    return { settings with logLevel }

/-- The settings of a file with a document. -/
def ofFile : Except FileError String → Except SettingsError Settings
  | .ok document => ofDocument document
  | .error e => .error (.unreadable e)

end Settings

end Reshape
