/-
Strings of a settings document.

A string is basic, with escapes, or literal, without; either may run over several lines between triple
quotes. `text` reads whichever starts here.
-/
import Reshape.Toml.Cursor

namespace Reshape.Toml

/-! ### Escapes -/

def isHexDigit (c : Char) : Bool :=
  c.isDigit || ('a' ≤ c && c ≤ 'f') || ('A' ≤ c && c ≤ 'F')

def hexDigit (c : Char) : Nat :=
  if c.isDigit then c.toNat - 48 else c.toUpper.toNat - 55

/-- The character of so many hexadecimal digits. -/
def codePoint (count : Nat) (c : Construct) : Reader Char :=
  within c do
    let start ← position
    let digits := ((← get).rest.take count).takeWhile isHexDigit
    if digits.length < count then fail
    let n := digits.foldl (fun n d => 16 * n + hexDigit d) 0
    if n.isValidChar then
      skip count
      return Char.ofNat n
    failAt start none [] (some .outOfRange)

/-- What may follow a backslash. -/
def escapeSigns : List Expectation :=
  ["b", "f", "n", "r", "t", "u", "U", "\\", "\""].map .sign

def plainEscape? : Char → Option Char
  | 'b' => some '\x08'
  | 'f' => some '\x0C'
  | 'n' => some '\n'
  | 'r' => some '\r'
  | 't' => some '\t'
  | '\\' => some '\\'
  | '"' => some '"'
  | _ => none

/-- What follows a backslash. -/
def escaped (c : Char) : Reader Char := do
  skip
  match plainEscape? c, c with
  | some d, _ => return d
  | none, 'u' => codePoint 4 .shortCode
  | none, 'U' => codePoint 8 .longCode
  | none, c =>
    let here ← position
    failAt (if c.toNat < 0x80 then here else here - 1) (some .escape) escapeSigns

/-- Printable characters that stand for themselves in a basic string. -/
def isPlain (c : Char) : Bool :=
  isPrintable c && c != '"' && c != '\\'

/-! ### On one line -/

def basicRest : Nat → Reader (List Char)
  | 0 => return []
  | fuel + 1 => do
    let run ← takeWhile isPlain
    match (← get).rest with
    | '"' :: _ =>
      skip
      return run
    | '\\' :: c :: _ =>
      skip
      let d ← escaped c
      return run ++ d :: (← basicRest fuel)
    | _ => fail (some .basicString)

def basicText : Reader (List Char) := do
  skip
  basicRest ((← get).rest.length + 1)

def literalText : Reader (List Char) := do
  skip
  let run ← takeWhile fun c => isPrintable c && c != '\''
  if (← peek) ≠ some '\'' then fail (some .literalString)
  skip
  return run

/-! ### On several lines -/

/-- A backslash in front of the end of a line, with blanks and ends of lines after it. -/
def foldedBreak (rest : List Char) : Option (List Char) :=
  match rest.dropWhile isBlank with
  | '\n' :: more => some (blankLines more)
  | '\r' :: '\n' :: more => some (blankLines more)
  | _ => none
where
  blankLines : List Char → List Char
    | '\n' :: more => blankLines more
    | '\r' :: '\n' :: more => blankLines more
    | c :: more => if isBlank c then blankLines more else c :: more
    | [] => []

/-- Steps to where `rest` is left. -/
def skipTo (rest : List Char) : Reader Unit := do
  skip ((← get).rest.length - rest.length)

/-- The text up to triple quotes. At most two quotes may stand in front of them. -/
def multilineRest : Nat → Reader (List Char)
  | 0 => return []
  | fuel + 1 => do
    let run ← takeWhile isPlain
    match (← get).rest with
    | '"' :: _ =>
      let rest := (← get).rest
      let quotes := (rest.takeWhile (· == '"')).length
      if quotes < 3 then
        if quotes = rest.length then fail (some .multilineBasicString)
        skip quotes
        return run ++ List.replicate quotes '"' ++ (← multilineRest fuel)
      let inside := min (quotes - 3) 2
      skip (inside + 3)
      return run ++ List.replicate inside '"'
    | '\\' :: c :: more =>
      match foldedBreak (c :: more) with
      | some rest =>
        skipTo rest
        return run ++ (← multilineRest fuel)
      | none =>
        skip
        let d ← escaped c
        return run ++ d :: (← multilineRest fuel)
    | _ =>
      if ← lineBreak then return run ++ '\n' :: (← multilineRest fuel)
      fail (some .multilineBasicString)

def multilineText : Reader (List Char) :=
  within .multilineBasicString do
    skip 3
    let _ ← lineBreak
    multilineRest ((← get).rest.length + 1)

def multilineLiteralRest : Nat → Reader (List Char)
  | 0 => return []
  | fuel + 1 => do
    let run ← takeWhile fun c => isPrintable c && c != '\''
    match (← get).rest with
    | '\'' :: _ =>
      let rest := (← get).rest
      let quotes := (rest.takeWhile (· == '\'')).length
      if quotes < 3 then
        match rest.drop quotes with
        | c :: more =>
          if isPrintable c || c = '\n' || (c = '\r' && more.head? = some '\n') then
            skip quotes
            return run ++ List.replicate quotes '\'' ++ (← multilineLiteralRest fuel)
          else fail (some .multilineLiteralString)
        | [] => fail (some .multilineLiteralString)
      let inside := min (quotes - 3) 2
      skip (inside + 3)
      return run ++ List.replicate inside '\''
    | _ =>
      if ← lineBreak then return run ++ '\n' :: (← multilineLiteralRest fuel)
      fail (some .multilineLiteralString)

def multilineLiteralText : Reader (List Char) := do
  skip 3
  let _ ← lineBreak
  multilineLiteralRest ((← get).rest.length + 1)

/-- The string that starts here, with a quote or an apostrophe. -/
def text : Reader String := do
  let cs ←
    if ← sees "\"\"\"" then multilineText
    else if ← sees "'''" then multilineLiteralText
    else if ← sees "'" then literalText
    else basicText
  return String.ofList cs

end Reshape.Toml
