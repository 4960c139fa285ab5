/-
Functions on places of the event.
-/
import Reshape.Function.Basic
import Reshape.Value.Place

namespace Reshape.Function

/-- A place that holds null exists. -/
def existsAt : Function where
  name := "exists"
  parameters := [{ keyword := "path", kind := .path }]
  fallible := false
  body := .looking fun root args =>
    .boolean ((args.place? 0).any fun p => (root.get? p).isSome)

def delete : Function where
  name := "del"
  parameters := [{ keyword := "path", kind := .path }]
  fallible := false
  body := .removing

def placeFunctions : List Function := [existsAt, delete]

end Reshape.Function
