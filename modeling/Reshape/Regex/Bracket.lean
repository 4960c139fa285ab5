/-
Classes in brackets.

A class is a union of items, or several unions joined by operators, which bind alike and to the left. A
bracket opens a class in the class unless it starts a name in colons.
-/
import Reshape.Regex.Escape

namespace Reshape.Regex

def NamedClass.ofName? (name : List Char) : Option NamedClass :=
  match String.ofList name with
  | "alnum" => some .alnum
  | "alpha" => some .alpha
  | "ascii" => some .ascii
  | "blank" => some .blank
  | "cntrl" => some .cntrl
  | "digit" => some .digit
  | "graph" => some .graph
  | "lower" => some .lower
  | "print" => some .print
  | "punct" => some .punct
  | "space" => some .space
  | "upper" => some .upper
  | "word" => some .word
  | "xdigit" => some .xdigit
  | _ => none

/-- A name in brackets and colons, if one comes next. -/
def namedClass? : Parser (Option ClassTree) := do
  let before ← get
  let start ← mark
  if ← skipText "[:" then
    let negated ← skipText "^"
    let name := (← get).rest.takeWhile (· != ':')
    let _ ← skipText (String.ofList name)
    if ← skipText ":]" then
      if let some c := NamedClass.ofName? name then
        return some (.named (← since start) negated c)
  set before
  return none

/-! ### Items -/

/-- Either a character or a class. -/
def bracketAtom : Parser Atom := do
  if (← peek) = some '\\' then escaped else return .literal (← verbatim)

/-- A character as the end of a range. -/
def rangeEnd : Atom → Parser Literal
  | .literal l => return l
  | a => fail .classRangeLiteral a.region

/-- An item of a class whose opening is `opening`: a range, or a part that may stand in a class. -/
def bracketItem (opening : Region) : Parser ClassTree := do
  let first ← bracketAtom
  skipBlanks
  let s ← get
  match s.rest with
  | [] => fail .classUnclosed opening
  | c :: _ =>
    if c ≠ '-' || s.ahead = some ']' || s.ahead = some '-' then
      match first with
      | .dot r | .assertion r _ => fail .classEscapeInvalid r
      | a => return .atom a
    else
      if !(← skipOn) then fail .classUnclosed opening
      let last ← bracketAtom
      let region := ⟨first.region.start, last.region.stop⟩
      let a ← rangeEnd first
      let b ← rangeEnd last
      if b.char < a.char then fail .classRangeInvalid region
      return .range region a b

/-! ### Unions and operators -/

/-- What has been read of a class: the operator that waits for its right side, and the items of the union
since then, the last one first. -/
structure Gathered where
  waiting : Option (SetOp × ClassTree) := none
  start : Mark
  items : List ClassTree := []

namespace Gathered

def push (g : Gathered) (item : ClassTree) : Gathered :=
  { g with items := item :: g.items }

def union (g : Gathered) : ClassTree :=
  match g.items.reverse with
  | [] => .union ⟨g.start, g.start⟩ []
  | [item] => item
  | first :: rest => .union ⟨first.region.start, ((first :: rest).getLast (by simp)).region.stop⟩ (first :: rest)

/-- The class, if it ends here. -/
def close (g : Gathered) : ClassTree :=
  match g.waiting with
  | none => g.union
  | some (op, left) => .op ⟨left.region.start, g.union.region.stop⟩ op left g.union

/-- What has been read becomes the left side of an operator. -/
def operate (g : Gathered) (op : SetOp) (start : Mark) : Gathered :=
  { waiting := some (op, g.close), start }

end Gathered

def setOp? : Option Char → Option Char → Option SetOp
  | some '&', some '&' => some .intersection
  | some '-', some '-' => some .difference
  | some '~', some '~' => some .symmetricDifference
  | _, _ => none

/-- Hyphens at the start of a class stand for themselves. -/
def leadingHyphens (start : Mark) : Nat → Gathered → Parser Gathered
  | 0, g => return g
  | fuel + 1, g => do
    if (← peek) = some '-' then
      let l ← charRegion
      if !(← skipOn) then fail .classUnclosed ⟨start, start⟩
      leadingHyphens start fuel (g.push (.atom (.literal ⟨l, '-', false⟩)))
    else return g

/-- The opening of a class: its region, whether the class is negated, and what stands literally at its
start. -/
def openBracket : Parser (Region × Bool × Gathered) := do
  let start ← mark
  if !(← skipOn) then fail .classUnclosed (← since start)
  let negated := (← peek) = some '^'
  if negated then
    if !(← skipOn) then fail .classUnclosed (← since start)
  let hyphens ← leadingHyphens start (← get).rest.length { start := ← mark }
  if hyphens.items.isEmpty && (← peek) = some ']' then
    let l ← charRegion
    if !(← skipOn) then fail .classUnclosed (← since start)
    return (← since start, negated, hyphens.push (.atom (.literal ⟨l, ']', false⟩)))
  return (← since start, negated, hyphens)

/-- The inside of a class, up to the closing bracket. -/
def bracketBody (opening : Region) : Nat → Gathered → Parser ClassTree
  | 0, g => return g.close
  | fuel + 1, g => do
    skipBlanks
    match ← peek with
    | none => fail .classUnclosed opening
    | some ']' => return g.close
    | some '[' =>
      match ← namedClass? with
      | some item => bracketBody opening fuel (g.push item)
      | none =>
        let (inner, negated, literals) ← openBracket
        let body ← bracketBody inner fuel literals
        skip
        let region ← since inner.start
        bracketBody opening fuel (g.push (.bracketed region negated body))
    | c =>
      match setOp? c (← get).rest.tail.head? with
      | some op =>
        skip
        skip
        bracketBody opening fuel (g.operate op (← mark))
      | none => bracketBody opening fuel (g.push (← bracketItem opening))

/-- The class whose bracket is here. -/
def bracketed : Parser Tree := do
  let fuel := (← get).rest.length
  let (opening, negated, literals) ← openBracket
  let body ← bracketBody opening fuel literals
  skip
  return .bracketed (← since opening.start) negated body

end Reshape.Regex
