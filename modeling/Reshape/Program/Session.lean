/-
What is asked of a runtime.

Runtimes may share a cache, each in surroundings of its own.  Only running a text looks it up or keeps it;
a text is also compiled and executed, or only checked, past the cache.

* `runAfresh` — compiling a text and executing it, with no cache;
* `Cache.perform` — the reply to an operation, and the cache after it.
-/
import Reshape.Program.Cache

namespace Reshape

/-- Compiles a text and executes it: the result and the event after it. -/
def runAfresh (s : Surroundings) (source : String) (event : Value) : Except RunError Value × Value :=
  match compile Library.standard source with
  | .error why => (.error (.compile why), event)
  | .ok p =>
    let out := p.run s event
    (out.result.mapError .fault, out.event)

/-- Why a text does not compile, or nothing if it does. -/
def checkSyntax (source : String) : Option Rejection :=
  match compile Library.standard source with
  | .error why => some why
  | .ok _ => none

inductive Operation where
  /-- Runs a text on an event of its own. -/
  | run (s : Surroundings) (source : String) (event : Value)
  /-- Runs a text on the caller's event, which is changed even if the run faults. -/
  | runInPlace (s : Surroundings) (source : String) (event : Value)
  /-- Compiles and executes a text past the cache. -/
  | execute (s : Surroundings) (source : String) (event : Value)
  | check (source : String)
  /-- Looks for the program of a text without compiling it. -/
  | get (source : String)
  | clear

inductive Reply where
  /-- The result and the changed event. -/
  | outcome (result : Except RunError (Value × Value))
  /-- The result, and the caller's event as it is now. -/
  | inPlace (result : Except RunError Value) (event : Value)
  | checked (rejection : Option Rejection)
  | found (program : Option Program)
  | cleared

namespace Cache

def perform (c : Cache) : Operation → Reply × Cache
  | .run s source event =>
    let (result, event, c) := c.run s source event
    (.outcome (result.map (·, event)), c)
  | .runInPlace s source event =>
    let (result, event, c) := c.run s source event
    (.inPlace result event, c)
  | .execute s source event =>
    let (result, event) := runAfresh s source event
    (.outcome (result.map (·, event)), c)
  | .check source => (.checked (checkSyntax source), c)
  | .get source => (.found (c.find? source), c)
  | .clear => (.cleared, c.clear)

/-- The cache after some operations, from an empty one on. -/
def after (history : List Operation) : Cache :=
  history.foldl (fun c op => (c.perform op).2) {}

end Cache

end Reshape
