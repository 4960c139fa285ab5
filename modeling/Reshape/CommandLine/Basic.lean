/-
The command line.

`answer` does what a command line asks for and gives the exit status and what is written to the two outputs.
Files and the input are read through a `Host`, so that the same definition serves any way of reading them.
-/
import Reshape.CommandLine.Options
import Reshape.Program.Cache
import Reshape.Settings

namespace Reshape.CommandLine

/-- How files and the input are read. -/
structure Host (m : Type → Type) where
  file : String → m (Except FileError String)
  input : m (Except FileError String)

/-- What a command line finds besides files. -/
structure Environment where
  /-- The name of the time zone, if the environment has one. -/
  zone : Option String
  /-- The outputs show colours. -/
  colours : Bool
  now : Timestamp
  seed : Nat

structure Reply where
  status : Nat := 0
  output : String := ""
  errors : String := ""
deriving DecidableEq, Repr

namespace Reply

def printed (text : String) : Reply :=
  { output := text ++ "\n" }

def failed (text : String) : Reply :=
  { status := 1, errors := text ++ "\n" }

/-- The command could not be started. -/
def refused (details : String) : Reply :=
  failed ("Error: " ++ details)

/-- Arithmetic has overflowed, which ends the command. -/
def overflowed (o : Overflow) : Reply :=
  { status := 101, errors := o.message ++ "\n" }

end Reply

/-! ### Texts -/

def usage : String :=
  "usage: reshape [--config FILE] [--no-color] COMMAND\n\n" ++
  "  run (--program FILE | --source TEXT) [--event JSON] [--timezone NAME] [--show-result]\n" ++
  "  check --program FILE\n" ++
  "  functions\n"

def version : String := "0.1.0"

def Stop.reply : Stop → Reply
  | help => { output := usage }
  | version => .printed CommandLine.version
  | misuse => { status := 2, errors := usage }

/-- A function with its parameters; a question mark follows those that may be left out. -/
def functionLine (f : Function) : String :=
  let parameters := f.parameters.map fun p => if p.required then p.keyword else p.keyword ++ "?"
  f.name ++ "(" ++ ", ".intercalate parameters ++ ")" ++ (if f.fallible then "  (fallible)" else "")

/-- The functions of a library in the order of their names. -/
def functionList (library : Library) : String :=
  String.join ((library.mergeSort fun f g => f.name ≤ g.name).map fun f => functionLine f ++ "\n")

/-- Why a text does not compile. -/
def rejected (coloured : Bool) : Rejection → Reply
  | .diagnostics ds => .failed (ds.render coloured)
  | .overflow o => .overflowed o

/-- Why a text did not run to its end, shown in the text. -/
def report (source : String) (coloured : Bool) : RunError → Reply
  | .compile why => rejected coloured why
  | .fault f => .failed ((Diagnostics.ofFault source f).render coloured)

/-! ### Commands -/

/-- The event of a JSON document. -/
def readEvent (document : String) : Except Reply Value :=
  let bytes := Text.encode document
  match Json.readDocument bytes with
  | .ok j => .ok (.ofJson j)
  | .error e => .error (.refused (e.details bytes))

/-- Runs a program on an event and prints the event after it. -/
def runOn (s : Surroundings) (source : String) (event : Value) (coloured showsResult : Bool) : Reply :=
  match ({} : Cache).run s source event with
  | (.ok result, event, _) =>
    { output := event.toJson.render ++ "\n" ++ (if showsResult then result.text ++ "\n" else "") }
  | (.error e, _, _) => report source coloured e

def checkReply (path source : String) (coloured : Bool) : Reply :=
  match compile Library.standard source with
  | .ok _ => .printed (path ++ ": ok")
  | .error why => rejected coloured why

section

variable {m : Type → Type} [Monad m]

/-- A file or the input, or the reply that it cannot be read. -/
def contents (read : m (Except FileError String)) : ExceptT Reply m String :=
  ExceptT.mk do return (← read).mapError fun e => .refused e.details

/-- Settings, or the reply that there are none. -/
def settled (settings : Except SettingsError Settings) : ExceptT Reply m Settings :=
  ExceptT.mk (pure (settings.mapError fun e => .refused e.details))

/-- The settings of a file; without one, those of the environment. -/
def settingsOf (host : Host m) (env : Environment) : Option String → ExceptT Reply m Settings
  | some path => do settled (Settings.ofFile (← ExceptT.mk (.ok <$> host.file path)))
  | none => settled (Settings.ofZoneName? env.zone)

def Source.read (host : Host m) : Source → ExceptT Reply m String
  | file path => contents (host.file path)
  | text t => pure t

/-- Does a command with settings at hand. -/
def perform (host : Host m) (env : Environment) (settings : Settings) (coloured : Bool) :
    Command → ExceptT Reply m Reply
  | .run source event zone showsResult => do
    let settings ← match zone with
      | some _ => settled (Settings.ofZoneName? zone)
      | none => pure settings
    let text ← source.read host
    let document ← if event = "-" then contents host.input else pure event
    match readEvent document with
    | .error reply => throw reply
    | .ok value =>
      return runOn ⟨settings.zone, env.now, env.seed⟩ text value coloured showsResult
  | .check path => do return checkReply path (← contents (host.file path)) coloured
  | .functions => return { output := functionList Library.standard }

/-- Does what the arguments ask for. -/
def answer (host : Host m) (env : Environment) (args : List String) : m Reply := do
  match Options.read args with
  | .error stop => return stop.reply
  | .ok options =>
    let attempt : ExceptT Reply m Reply := do
      let settings ← settingsOf host env options.settings
      perform host env settings (env.colours && !options.plain) options.command
    match ← attempt.run with
    | .ok reply | .error reply => return reply

end

end Reshape.CommandLine
