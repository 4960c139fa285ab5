/-
Why files cannot be read.
-/
namespace Reshape

inductive FileError where
  | missing
  | directory
  /-- Its bytes are no text. -/
  | notText
deriving DecidableEq, Repr

namespace FileError

def message : FileError → String
  | missing => "No such file or directory (os error 2)"
  | directory => "Is a directory (os error 21)"
  | notText => "stream did not contain valid UTF-8"

/-- The error with its parts. -/
def details : FileError → String
  | missing => "Os \x7b code: 2, kind: NotFound, message: \"No such file or directory\" \x7d"
  | directory => "Os \x7b code: 21, kind: IsADirectory, message: \"Is a directory\" \x7d"
  | notText => "Error \x7b kind: InvalidData, message: \"stream did not contain valid UTF-8\" \x7d"

end FileError

end Reshape
