/-
Time zones by name.
-/
import Reshape.Text.Quoted
import Reshape.Text.Trim
import Reshape.Time.Zone.Table

namespace Reshape

/-- Why there is no zone of a name. -/
inductive ZoneError where
  | unknownName (name : String)
deriving DecidableEq, Repr

def ZoneError.message : ZoneError → String
  | unknownName name => s!"unknown timezone identifier {quoted name}"

namespace Zone

/-- The zone of the host, whose clock shows UTC. -/
def host : Zone := fixed "local" 0

/-- The zone of a name, without the blanks around it. No name and `local`, in any case, are the host's;
all other names are exact. -/
def named (name : String) : Except ZoneError Zone :=
  let bare := Text.trim name.toList
  if bare.isEmpty || bare.map Char.toLower == ['l', 'o', 'c', 'a', 'l'] then .ok host
  else
    match find? (String.ofList bare) with
    | some z => .ok z
    | none => .error (.unknownName (String.ofList bare))

end Zone

end Reshape
