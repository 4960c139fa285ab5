/-
Calling a function.

A call gives a value or a failure, and the event after it. Only a function that removes a place changes the
event.
-/
import Reshape.Function.Basic
import Reshape.Value.Place

namespace Reshape.Function

/-- The failure of a removing function without a place. -/
def placeMissing (f : Function) : Failure :=
  .invalidArgument s!"{f.name} requires a field path argument"

/-- Calls a function. The number tells the calls of one program apart. -/
def call (f : Function) (surroundings : Surroundings) (serial : Nat) (root : Value) (args : Arguments) :
    Except Failure Value × Value :=
  match f.body with
  | .plain run => (run args, root)
  | .zoned run => (run surroundings.zone args, root)
  | .looking run => (.ok (run root args), root)
  | .outside run => (.ok (run surroundings serial), root)
  | .removing =>
    match args.place? 0 with
    | some p =>
      let (old, root) := root.remove p
      (.ok (old.getD .null), root)
    | none => (.error f.placeMissing, root)

end Reshape.Function
