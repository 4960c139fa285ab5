/-
What a written regular expression means.

Flags hold from where they are set to the end of the group around; `Tree.meaning` passes them from left to
right. Without the Unicode flag only ASCII characters have classes and case variants, and nothing may match
what is no character.
-/
import Reshape.Regex.Basic
import Reshape.Regex.Parser
import Reshape.Unicode.Named

namespace Reshape.Regex

structure Flags where
  caseInsensitive : Bool := false
  multiLine : Bool := false
  dotMatchesNewLine : Bool := false
  unicode : Bool := true
  anyLineBreak : Bool := false

namespace Flags

/-- The flags of which the meaning of a part depends; the others are ignored. -/
def set (fs : Flags) : Flag × Bool → Flags
  | (.caseInsensitive, b) => { fs with caseInsensitive := b }
  | (.multiLine, b) => { fs with multiLine := b }
  | (.dotMatchesNewLine, b) => { fs with dotMatchesNewLine := b }
  | (.unicode, b) => { fs with unicode := b }
  | (.anyLineBreak, b) => { fs with anyLineBreak := b }
  | (.swapGreed, _) | (.verbose, _) => fs

def change (fs : Flags) (changes : FlagChanges) : Flags :=
  changes.foldl set fs

end Flags

def problem {α : Type} (kind : ProblemKind) (region : Region) : Except Problem α :=
  .error { kind, region }

/-! ### Sets -/

/-- The set with case variants, if case does not matter. -/
def Flags.fold (fs : Flags) (s : CharSet) : CharSet :=
  if !fs.caseInsensitive then s
  else if fs.unicode then Unicode.closeUnderCase s
  else Unicode.closeUnderAsciiCase s

/-- A set folded and, if wanted, negated. Without Unicode a complement holds more than characters. -/
def Flags.finish (fs : Flags) (region : Region) (negated : Bool) (s : CharSet) : Except Problem CharSet :=
  if !negated then .ok (fs.fold s)
  else if fs.unicode then .ok (fs.fold s).complement
  else problem .invalidUtf8 region

def LetterClass.set (unicode : Bool) : LetterClass → CharSet
  | digit => if unicode then Unicode.CategoryTable.decimalNumber else .ofRanges [(48, 57)]
  | space => if unicode then Unicode.PropertyTable.whiteSpace else .ofRanges [(9, 13), (32, 32)]
  | word => if unicode then Unicode.wordChars else .ofRanges [(48, 57), (65, 90), (95, 95), (97, 122)]

def NamedClass.set : NamedClass → CharSet
  | alnum => .ofRanges [(48, 57), (65, 90), (97, 122)]
  | alpha => .ofRanges [(65, 90), (97, 122)]
  | ascii => .ofRanges [(0, 127)]
  | blank => .ofRanges [(9, 9), (32, 32)]
  | cntrl => .ofRanges [(0, 31), (127, 127)]
  | digit => .ofRanges [(48, 57)]
  | graph => .ofRanges [(33, 126)]
  | lower => .ofRanges [(97, 122)]
  | print => .ofRanges [(32, 126)]
  | punct => .ofRanges [(33, 47), (58, 64), (91, 96), (123, 126)]
  | space => .ofRanges [(9, 13), (32, 32)]
  | upper => .ofRanges [(65, 90)]
  | word => .ofRanges [(48, 57), (65, 90), (95, 95), (97, 122)]
  | xdigit => .ofRanges [(48, 57), (65, 70), (97, 102)]

def Query.set : Query → Except Unicode.NameError CharSet
  | name n => Unicode.named n
  | value property v => Unicode.valued property v

/-- Characters with a property of Unicode. -/
def Flags.property (fs : Flags) (region : Region) (negated : Bool) (query : Query) :
    Except Problem CharSet :=
  if !fs.unicode then problem .unicodeNotAllowed region
  else match query.set with
    | .ok s => fs.finish region negated s
    | .error .unknownProperty => problem .unknownProperty region
    | .error .unknownValue => problem .unknownPropertyValue region

/-- A class with a letter; case makes no difference to it. -/
def Flags.letter (fs : Flags) (region : Region) (negated : Bool) (c : LetterClass) :
    Except Problem CharSet :=
  if !negated then .ok (c.set fs.unicode)
  else if fs.unicode then .ok (c.set true).complement
  else problem .invalidUtf8 region

/-- A byte is a character only if it is one of ASCII, unless Unicode is meant. -/
def Flags.literal (fs : Flags) (l : Literal) : Except Problem Char :=
  if !fs.unicode && l.byte && l.char.toNat > 0x7F then problem .invalidUtf8 l.region else .ok l.char

/-- A character in a class. -/
def Flags.member (fs : Flags) (l : Literal) : Except Problem Char := do
  let c ← fs.literal l
  if !fs.unicode && c.toNat > 0x7F then problem .unicodeNotAllowed l.region else .ok c

def SetOp.apply : SetOp → CharSet → CharSet → CharSet
  | intersection => .inter
  | difference => .difference
  | symmetricDifference => .symmetricDifference

def Atom.members (fs : Flags) : Atom → Except Problem CharSet
  | literal l => return .singleton (← fs.member l)
  | unicode region negated query => fs.property region negated query
  | letter region negated c => fs.letter region negated c
  | dot region | assertion region _ => problem .classEscapeInvalid region

mutual

def ClassTree.members (fs : Flags) : ClassTree → Except Problem CharSet
  | .atom a => a.members fs
  | .range _ first last => do
    let a ← fs.member first
    let b ← fs.member last
    return .range a b
  | .named region negated c => fs.finish region negated c.set
  | .bracketed region negated inner => do fs.finish region negated (← inner.members fs)
  | .union _ items => membersOfAll fs items
  | .op _ op left right => do
    let a ← left.members fs
    let b ← right.members fs
    return op.apply (fs.fold a) (fs.fold b)

def membersOfAll (fs : Flags) : List ClassTree → Except Problem CharSet
  | [] => return .empty
  | item :: rest => do
    let a ← item.members fs
    return a.union (← membersOfAll fs rest)

end

/-! ### Parts -/

/-- Every character but those that end lines. -/
def Flags.dot (fs : Flags) (region : Region) : Except Problem CharSet :=
  if !fs.unicode then problem .invalidUtf8 region
  else if fs.dotMatchesNewLine then .ok (CharSet.empty).complement
  else if fs.anyLineBreak then .ok (CharSet.ofRanges [(10, 10), (13, 13)]).complement
  else .ok (CharSet.singleton '\n').complement

def Assertion.look (fs : Flags) : Assertion → Look
  | startLine => if fs.multiLine then .lineStart fs.anyLineBreak else .textStart
  | endLine => if fs.multiLine then .lineEnd fs.anyLineBreak else .textEnd
  | startText => .textStart
  | endText => .textEnd
  | wordBoundary => .word .boundary fs.unicode
  | notWordBoundary => .word .inside fs.unicode
  | wordStart => .word .start fs.unicode
  | wordEnd => .word .stop fs.unicode
  | wordStartHalf => .word .startHalf fs.unicode
  | wordEndHalf => .word .stopHalf fs.unicode

def Atom.meaning (fs : Flags) : Atom → Except Problem Regex
  | literal l => return .char (fs.fold (.singleton (← fs.literal l)))
  | dot region => return .char (← fs.dot region)
  | assertion _ a => return .look (a.look fs)
  | unicode region negated query => return .char (← fs.property region negated query)
  | letter region negated c => return .char (← fs.letter region negated c)

mutual

/-- The meaning of a part under some flags, and the flags behind it. -/
def Tree.meaning (fs : Flags) : Tree → Except Problem (Regex × Flags)
  | .empty _ => return (Regex.empty, fs)
  | .flags _ changes => return (Regex.empty, fs.change changes)
  | .atom a => return (← a.meaning fs, fs)
  | .bracketed region negated inner => do
    return (.char (← fs.finish region negated (← inner.members fs)), fs)
  | .repetition _ least most inner => do
    let (r, fs) ← inner.meaning fs
    return (.repetition least most r, fs)
  | .group _ changes inner => do
    let (r, _) ← inner.meaning (fs.change changes)
    return (r, fs)
  | .alternation _ branches => meaningOfBranches fs branches
  | .concat _ items => meaningOfItems fs items

def meaningOfItems (fs : Flags) : List Tree → Except Problem (Regex × Flags)
  | [] => return (Regex.empty, fs)
  | [item] => item.meaning fs
  | item :: rest => do
    let (a, fs) ← item.meaning fs
    let (b, fs) ← meaningOfItems fs rest
    return (.seq a b, fs)

def meaningOfBranches (fs : Flags) : List Tree → Except Problem (Regex × Flags)
  | [] => return (Regex.empty, fs)
  | [branch] => branch.meaning fs
  | branch :: rest => do
    let (a, fs) ← branch.meaning fs
    let (b, fs) ← meaningOfBranches fs rest
    return (.either a b, fs)

end

/-! ### Compiling -/

inductive CompileError where
  | problem (p : Problem) (pattern : List Char)
  | tooLarge
deriving DecidableEq, Repr

/-- How many bytes a compiled regular expression may take. -/
def greatestSize : Nat := 10485760

def CompileError.message : CompileError → String
  | problem p pattern => p.render pattern
  | tooLarge => s!"Compiled regex exceeds size limit of {greatestSize} bytes."

def compile (pattern : List Char) : Except CompileError Regex :=
  match (parse pattern).bind fun tree => tree.meaning {} with
  | .ok (r, _) => if r.size > greatestSize then .error .tooLarge else .ok r
  | .error p => .error (.problem p pattern)

end Reshape.Regex
