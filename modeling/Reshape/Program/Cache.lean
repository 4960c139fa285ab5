/-
Programs kept by their text.

A text is compiled once; later runs find its program. Texts that do not compile are not kept. The counters
go on over `Cache.clear`. They have no bound here, where counters of 64 bits start again at zero: so many runs
are out of reach, as at a thousand million of them a second 2 ^ 64 take more than five hundred years.

* `Cache.fetch` finds or compiles a program;
* `Cache.run` runs a text on an event.
-/
import Reshape.Diagnostic.Render
import Reshape.Function.Standard
import Reshape.Program.Resolve
import Reshape.Program.Run

namespace Reshape

/-- Why a text did not run to its end. -/
inductive RunError where
  | compile (rejection : Rejection)
  | fault (fault : Fault)

def RunError.message : RunError → String
  | compile (.diagnostics ds) => "program failed to compile:\n" ++ ds.render false
  | compile (.overflow o) => o.message
  | fault f => s!"program execution failed: {f.message}"

structure Cache where
  /-- The programs, the latest first. -/
  entries : List (String × Program) := []
  hits : Nat := 0
  misses : Nat := 0

namespace Cache

/-- The program kept for a text. -/
def find? (c : Cache) (source : String) : Option Program :=
  c.entries.lookup source

def size (c : Cache) : Nat :=
  c.entries.length

/-- The program of a text, found or compiled and then kept. -/
def fetch (c : Cache) (source : String) : Except Rejection Program × Cache :=
  match c.find? source with
  | some p => (.ok p, { c with hits := c.hits + 1 })
  | none =>
    let missed := { c with misses := c.misses + 1 }
    match compile Library.standard source with
    | .ok p => (.ok p, { missed with entries := (source, p) :: c.entries })
    | .error why => (.error why, missed)

/-- Forgets every program. -/
def clear (c : Cache) : Cache :=
  { c with entries := [] }

/-- Runs a text on an event: the result, the event after it, and the cache. -/
def run (c : Cache) (s : Surroundings) (source : String) (event : Value) :
    Except RunError Value × Value × Cache :=
  match c.fetch source with
  | (.error why, c) => (.error (.compile why), event, c)
  | (.ok p, c) =>
    let out := p.run s event
    (out.result.mapError .fault, out.event, c)

end Cache

end Reshape
