/-
The program: the command line with real files.
-/
import Reshape.CommandLine.Basic
import Std.Time.DateTime.Timestamp

namespace Reshape.CommandLine

def textOf (bytes : ByteArray) : Except FileError String :=
  match String.fromUTF8? bytes with
  | some text => .ok text
  | none => .error .notText

/-- Reads files of the host and its standard input. -/
def realHost : Host IO where
  file path := do
    try
      return textOf (← IO.FS.readBinFile path)
    catch e =>
      match e with
      | .inappropriateType .. => return .error .directory
      | _ => return .error .missing
  input := do
    return textOf (← (← IO.getStdin).readBinToEnd)

/-- Colours are for terminals, unless they are asked for. -/
def showsColours : IO Bool := do
  match ← IO.getEnv "CLICOLOR_FORCE" with
  | some value => if value != "0" then return true
  | none => pure ()
  (← IO.getStdout).isTty

def realEnvironment : IO Environment := do
  let nanoseconds := (← Std.Time.Timestamp.now).toNanosecondsSinceUnixEpoch.toInt
  return {
    zone := ← IO.getEnv "EVENTFOLD_TIMEZONE"
    colours := ← showsColours
    now := ⟨nanoseconds / 1000000000, (nanoseconds % 1000000000).toNat, 0⟩
    seed := nanoseconds.toNat }

end Reshape.CommandLine

open Reshape.CommandLine in
def main (args : List String) : IO UInt32 := do
  let reply ← answer realHost (← realEnvironment) args
  IO.print reply.output
  IO.eprint reply.errors
  return reply.status.toUInt32
