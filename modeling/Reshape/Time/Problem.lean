/-
What can be wrong with the text of a time.
-/
namespace Reshape.Time

inductive Problem where
  /-- A field is beyond its range. -/
  | outOfRange
  /-- The fields contradict each other. -/
  | impossible
  /-- The fields leave the time open. -/
  | notEnough
  /-- A character does not fit. -/
  | invalid
  /-- The text ends early. -/
  | tooShort
  /-- Text is left over. -/
  | tooLong
deriving DecidableEq, Repr

def Problem.message : Problem → String
  | outOfRange => "input is out of range"
  | impossible => "no possible date and time matching input"
  | notEnough => "input is not enough for unique date and time"
  | invalid => "input contains invalid characters"
  | tooShort => "premature end of input"
  | tooLong => "trailing input"

end Reshape.Time
