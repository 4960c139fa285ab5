/-
What a command line asks for.

Options come before what they are about: those of the whole program before the name of a command, those of a
command after it. Each may be given once. `Options.read` gives the options of a command line, or says why
there is nothing to do.
-/
import Reshape.Text.Search

namespace Reshape.CommandLine

/-- Where the text of a program is. -/
inductive Source where
  | file (path : String)
  | text (text : String)
deriving DecidableEq, Repr

inductive Command where
  | run (source : Source) (event : String) (zone : Option String) (showsResult : Bool)
  | check (path : String)
  | functions
deriving DecidableEq, Repr

structure Options where
  /-- The file with the settings. -/
  settings : Option String
  /-- Diagnostics are never coloured. -/
  plain : Bool
  command : Command
deriving DecidableEq, Repr

/-- Why a command line has no options. -/
inductive Stop where
  | help | version | misuse
deriving DecidableEq, Repr

/-! ### Option forms -/

inductive OptionKind where
  /-- It is given or not. -/
  | flag
  | value
  /-- A value that is not empty. -/
  | path
deriving DecidableEq, Repr

structure OptionForm where
  long : String
  short : Option Char := none
  kind : OptionKind := .value
deriving DecidableEq, Repr

def generalForms : List OptionForm :=
  [{ long := "config", short := some 'c', kind := .path }, { long := "no-color", kind := .flag }]

def runForms : List OptionForm :=
  [{ long := "program", short := some 'p', kind := .path }, { long := "source", short := some 'e' },
    { long := "event" }, { long := "timezone" }, { long := "show-result", kind := .flag }]

def checkForms : List OptionForm :=
  [{ long := "program", short := some 'p', kind := .path }]

/-! ### Scanning -/

/-- The options given, each with its value, or nothing for a flag. -/
abbrev Given := List (String × String)

/-- Is this an option and not a value? A single hyphen is a value. -/
def isOption (arg : String) : Bool :=
  match arg.toList with
  | '-' :: _ :: _ => true
  | _ => false

/-- Adds an option, which may not be there yet. -/
def give (given : Given) (form : OptionForm) (value : String) : Except Stop Given :=
  if (given.lookup form.long).isSome then .error .misuse
  else if form.kind = .path && value.isEmpty then .error .misuse
  else .ok ((form.long, value) :: given)

/-- The value of an option that is not written with it: the next argument, unless that is an option. -/
def nextValue : List String → Except Stop (String × List String)
  | [] => .error .misuse
  | arg :: rest => if isOption arg then .error .misuse else .ok (arg, rest)

/-- A long option, after its hyphens. The rest is what comes after the option. -/
def longOption (forms : List OptionForm) (given : Given) (body : List Char) (rest : List String) :
    Except Stop (Given × List String) := do
  let (name, value?) :=
    match Text.cut? ['='] body with
    | some (name, value) => (String.ofList name, some (String.ofList value))
    | none => (String.ofList body, none)
  match forms.find? (·.long == name), value? with
  | none, none => throw (if name = "help" then .help else if name = "version" then .version else .misuse)
  | none, some _ => throw .misuse
  | some form, value? =>
    match form.kind, value? with
    | .flag, none => return (← give given form "", rest)
    | .flag, some _ => throw .misuse
    | _, some value => return (← give given form value, rest)
    | _, none => do
      let (value, rest) ← nextValue rest
      return (← give given form value, rest)

/-- Short options, after their hyphen. One that takes a value takes all that is written with it. -/
def shortOptions (forms : List OptionForm) (given : Given) (rest : List String) :
    List Char → Except Stop (Given × List String)
  | [] => .ok (given, rest)
  | c :: more =>
    match forms.find? (·.short == some c) with
    | none => .error (if c = 'h' then .help else if c = 'V' then .version else .misuse)
    | some form => do
      match form.kind, more with
      | .flag, _ => shortOptions forms (← give given form "") rest more
      | _, [] =>
        let (value, rest) ← nextValue rest
        return (← give given form value, rest)
      | _, '=' :: value => return (← give given form (String.ofList value), rest)
      | _, value => return (← give given form (String.ofList value), rest)

/-- The options up to an argument that is none, and that argument with what follows it. -/
def scan (forms : List OptionForm) : Nat → Given → List String → Except Stop (Given × List String)
  | 0, given, args => .ok (given, args)
  | _, given, [] => .ok (given, [])
  | fuel + 1, given, arg :: rest =>
    match arg.toList with
    | ['-', '-'] => if rest.isEmpty then .ok (given, []) else .error .misuse
    | '-' :: '-' :: body => do
      let (given, rest) ← longOption forms given body rest
      scan forms fuel given rest
    | '-' :: c :: body => do
      let (given, rest) ← shortOptions forms given rest (c :: body)
      scan forms fuel given rest
    | _ => .ok (given, arg :: rest)

/-- The options of a command, which takes nothing else. -/
def scanAll (forms : List OptionForm) (args : List String) : Except Stop Given := do
  match ← scan forms args.length [] args with
  | (given, []) => return given
  | _ => throw .misuse

/-! ### Commands -/

def sourceOf (given : Given) : Except Stop Source :=
  match given.lookup "program", given.lookup "source" with
  | some path, none => .ok (.file path)
  | none, some text => .ok (.text text)
  | _, _ => .error .misuse

def Command.read (name : String) (args : List String) : Except Stop Command := do
  match name with
  | "run" =>
    let given ← scanAll runForms args
    let source ← sourceOf given
    return .run source ((given.lookup "event").getD "\x7b\x7d") (given.lookup "timezone")
      (given.lookup "show-result").isSome
  | "check" =>
    match (← scanAll checkForms args).lookup "program" with
    | some path => return .check path
    | none => throw .misuse
  | "functions" =>
    let _ ← scanAll [] args
    return .functions
  | "help" => throw (if args.isEmpty || isCommand args then .help else .misuse)
  | _ => throw .misuse
where
  isCommand (args : List String) : Bool :=
    args ∈ [["run"], ["check"], ["functions"], ["help"]]

def Options.read (args : List String) : Except Stop Options := do
  match ← scan generalForms args.length [] args with
  | (_, []) => throw .misuse
  | (given, name :: rest) =>
    return {
      settings := given.lookup "config"
      plain := (given.lookup "no-color").isSome
      command := ← Command.read name rest }

end Reshape.CommandLine
