/-
Reading a regular expression.

`parse` gives the tree of a pattern or the first problem in it. Branches are read from left to right; a group
is read by the same rule up to its closing parenthesis. The parts of a tree may not lie too deep.
-/
import Reshape.Regex.Bracket
import Reshape.Unicode.Word

namespace Reshape.Regex

/-! ### Flags and names of groups -/

def flag? : Char → Option Flag
  | 'i' => some .caseInsensitive
  | 'm' => some .multiLine
  | 's' => some .dotMatchesNewLine
  | 'U' => some .swapGreed
  | 'u' => some .unicode
  | 'R' => some .anyLineBreak
  | 'x' => some .verbose
  | _ => none

/-- The flags read so far, with their places; the first hyphen turns off what follows it. -/
structure FlagList where
  seen : List (Flag × Region) := []
  changes : FlagChanges := []
  hyphen : Option Region := none
  /-- The hyphen came last. -/
  dangling : Bool := false

def FlagList.add (fs : FlagList) (flag : Flag) (region : Region) : FlagList :=
  { fs with
    seen := fs.seen ++ [(flag, region)]
    changes := fs.changes ++ [(flag, fs.hyphen.isNone)]
    dangling := false }

/-- The flags up to a colon or a closing parenthesis. -/
def flagList : Nat → FlagList → Parser FlagList
  | 0, fs => return fs
  | fuel + 1, fs => do
    let region ← charRegion
    let c := (← peek).getD ')'
    if c = ':' || c = ')' then
      if fs.dangling then
        if let some hyphen := fs.hyphen then fail .flagDanglingNegation hyphen
      return fs
    let longer ← if c = '-' then
        if let some earlier := fs.hyphen then fail .flagRepeatedNegation region (some earlier)
        pure { fs with hyphen := some region, dangling := true }
      else
        match flag? c with
        | none => fail .flagUnrecognized region
        | some flag =>
          if let some (_, earlier) := fs.seen.find? (·.1 == flag) then
            fail .flagDuplicate region (some earlier)
          pure (fs.add flag region)
    skip
    if (← peek).isNone then fail .flagUnexpectedEnd (← here)
    flagList fuel longer

def isNameChar (isFirst : Bool) (c : Char) : Bool :=
  c == '_' || if isFirst then Unicode.isAlphabetic c
    else c == '.' || c == '[' || c == ']' || Unicode.isAlphanumeric c

/-- The rest of a name, up to the angle bracket. -/
def nameChars (isFirst : Bool) : Nat → Parser (List Char)
  | 0 => return []
  | fuel + 1 => do
    match ← peek with
    | none => fail .groupNameUnexpectedEnd (← here)
    | some '>' => return []
    | some c =>
      if !isNameChar isFirst c then fail .groupNameInvalid (← charRegion)
      skip
      return c :: (← nameChars false fuel)

/-- The name of a group. No two groups share one. -/
def groupName : Parser Unit := do
  let start ← mark
  let name ← nameChars true ((← get).rest.length + 1)
  let region ← since start
  skip
  if name.isEmpty then fail .groupNameEmpty region
  if let some (_, earlier) := (← get).names.find? (·.1 == name) then
    fail .groupNameDuplicate region (some earlier)
  modify fun s => { s with names := (name, region) :: s.names }

/-- What a parenthesis opens. -/
inductive Opening where
  /-- Flags for the rest of the group around. -/
  | flags (region : Region) (changes : FlagChanges)
  | group (paren : Region) (changes : FlagChanges)

/-- How a group starts that looks around instead of matching. -/
def lookAroundForms : List String := ["?=", "?!", "?<=", "?<!"]

def opening : Parser Opening := do
  let paren ← charRegion
  skip
  skipBlanks
  let inside ← here
  for form in lookAroundForms do
    if ← skipText form then fail .lookAround (← since paren.start)
  if ← skipText "?P<" then groupName; return .group paren []
  if ← skipText "?<" then groupName; return .group paren []
  if ← skipText "?" then
    if (← peek).isNone then fail .groupUnclosed paren
    let fs ← flagList ((← get).rest.length + 1) {}
    let isSetting := (← peek) = some ')'
    skip
    if !isSetting then return .group paren fs.changes
    if fs.changes.isEmpty then fail .repetitionMissing inside
    return .flags (← since paren.start) fs.changes
  return .group paren []

/-! ### Repetitions -/

/-- A number, in the range of 32 bits. Blanks may stand around it. -/
def count : Parser (Except Problem Nat) := do
  skipWhileBlank
  let start ← mark
  let digits ← takeSpaced Char.isDigit
  let region ← since start
  skipWhileBlank
  let n := digits.foldl (fun n c => 10 * n + (c.toNat - 48)) 0
  if digits.isEmpty then return .error { kind := .repetitionCountEmpty, region }
  if n ≥ 0x100000000 then return .error { kind := .decimalInvalid, region }
  return .ok n

/-- How often a part is repeated, by the braces here. -/
def counts : Parser (Nat × Option Nat) := do
  let start ← mark
  if !(← skipOn) then fail .repetitionCountUnclosed (← since start)
  let least ← count
  let range ← match ← peek with
    | none => fail .repetitionCountUnclosed (← since start)
    | some ',' =>
      if !(← skipOn) then fail .repetitionCountUnclosed (← since start)
      let least ← least
      if (← peek) = some '}' then pure (least, none)
      else
        let most ← count
        let most ← most
        pure (least, some most)
    | some _ =>
      let least ← least
      pure (least, some least)
  if (← peek) ≠ some '}' then fail .repetitionCountUnclosed (← since start)
  let more ← skipOn
  if more && (← peek) = some '?' then skip
  if range.2.any (· < range.1) then fail .repetitionCountInvalid (← since start)
  return range

/-- The sign of a repetition, and a question mark after it, which only matters for how much is matched. -/
def sign (least : Nat) (most : Option Nat) : Parser (Nat × Option Nat) := do
  skip
  if (← peek) = some '?' then skip
  return (least, most)

def times (c : Char) : Parser (Nat × Option Nat) :=
  match c with
  | '?' => sign 0 (some 1)
  | '*' => sign 0 none
  | '+' => sign 1 none
  | _ => counts

/-- Repeats the last of the items, which come last one first. -/
def repeatLast (c : Char) : List Tree → Parser (List Tree)
  | [] | .flags .. :: _ | .empty _ :: _ => do fail .repetitionMissing (← here)
  | last :: before => do
    let (least, most) ← times c
    return .repetition ⟨last.region.start, ← mark⟩ least most last :: before

/-! ### Branches -/

/-- Items in a row, where the row starts and ends. -/
def Tree.ofItems (region : Region) : List Tree → Tree
  | [] => .empty region
  | [item] => item
  | items => .concat region items

/-- The branches of a group so far and the items of the branch being read, both the last one first. -/
structure Branches where
  start : Mark
  done : List Tree := []
  branchStart : Mark := start
  items : List Tree := []

namespace Branches

def push (b : Branches) (item : Tree) : Branches :=
  { b with items := item :: b.items }

/-- The branch being read, if it ends here. -/
def branch (b : Branches) (stop : Mark) : Tree :=
  .ofItems ⟨b.branchStart, stop⟩ b.items.reverse

def nextBranch (b : Branches) (stop : Mark) (start : Mark) : Branches :=
  { b with done := b.branch stop :: b.done, branchStart := start, items := [] }

/-- All of the branches, if the group ends here. -/
def close (b : Branches) (stop : Mark) : Tree :=
  match b.done with
  | [] => b.branch stop
  | done => .alternation ⟨b.start, stop⟩ (done.reverse ++ [b.branch stop])

end Branches

/-- Whether the flags turn blanks into nothing; `current` if they do not say. -/
def verboseAfter (changes : FlagChanges) (current : Bool) : Bool :=
  (changes.lookup .verbose).getD current

/-- The branches up to a closing parenthesis or the end of the pattern. -/
def branches : Nat → Branches → Parser Tree
  | 0, b => return b.close (← mark)
  | fuel + 1, b => do
    skipBlanks
    match ← peek with
    | none | some ')' => return b.close (← mark)
    | some '|' =>
      let stop ← mark
      skip
      branches fuel (b.nextBranch stop (← mark))
    | some '(' =>
      match ← opening with
      | .flags region changes =>
        modify fun s => { s with verbose := verboseAfter changes s.verbose }
        branches fuel (b.push (.flags region changes))
      | .group paren changes =>
        let outside := (← get).verbose
        modify fun s => { s with verbose := verboseAfter changes outside }
        let inner ← branches fuel { start := ← mark }
        if (← peek).isNone then fail .groupUnclosed paren
        modify fun s => { s with verbose := outside }
        skip
        let region ← since paren.start
        branches fuel (b.push (.group region changes inner))
    | some '[' => branches fuel (b.push (← bracketed))
    | some c =>
      if c ∈ ['?', '*', '+', '\x7b'] then
        branches fuel { b with items := ← repeatLast c b.items }
      else
        branches fuel (b.push (.atom (← standing)))

/-- How deep the parts of a tree may lie. -/
def greatestDepth : Nat := 250

def parse (pattern : List Char) : Except Problem Tree := do
  let (tree, s) ← (branches (pattern.length + 1) { start := .origin }).run { rest := pattern }
  if !s.rest.isEmpty then throw { kind := .groupUnopened, region := ⟨s.mark, s.past.mark⟩ }
  match deepPart greatestDepth tree with
  | some region => throw { kind := .nestLimit greatestDepth, region }
  | none => return tree

end Reshape.Regex
