/-
Regular expressions as they are written.

Every part knows its region of the pattern. Groups keep the flags that they set, and characters whether they
were written as a byte.
-/
import Reshape.Regex.Problem

namespace Reshape.Regex

inductive Flag where
  | caseInsensitive | multiLine | dotMatchesNewLine | swapGreed | unicode | anyLineBreak | verbose
deriving DecidableEq, Repr

/-- Flags that a group or a part of it turns on and off. -/
abbrev FlagChanges := List (Flag × Bool)

/-- A character, and whether two hexadecimal digits stand for it. -/
structure Literal where
  region : Region
  char : Char
  byte : Bool := false
deriving DecidableEq, Repr

inductive Assertion where
  | startLine | endLine | startText | endText
  | wordBoundary | notWordBoundary | wordStart | wordEnd | wordStartHalf | wordEndHalf
deriving DecidableEq, Repr

/-- The classes with a letter of their own. -/
inductive LetterClass where
  | digit | space | word
deriving DecidableEq, Repr

/-- How a class of Unicode is asked for. -/
inductive Query where
  | name (name : List Char)
  | value (property value : List Char)
deriving DecidableEq, Repr

/-- What stands alone: a character, a class of characters or a place in the text. -/
inductive Atom where
  | literal (l : Literal)
  | dot (region : Region)
  | assertion (region : Region) (a : Assertion)
  | unicode (region : Region) (negated : Bool) (query : Query)
  | letter (region : Region) (negated : Bool) (c : LetterClass)
deriving DecidableEq, Repr

def Atom.region : Atom → Region
  | literal l => l.region
  | dot r | assertion r _ | unicode r _ _ | letter r _ _ => r

/-- The classes with a name in brackets and colons. -/
inductive NamedClass where
  | alnum | alpha | ascii | blank | cntrl | digit | graph | lower | print | punct | space | upper | word
  | xdigit
deriving DecidableEq, Repr

inductive SetOp where
  | intersection | difference | symmetricDifference
deriving DecidableEq, Repr

/-- The inside of a class in brackets. -/
inductive ClassTree where
  | atom (a : Atom)
  | range (region : Region) (first last : Literal)
  | named (region : Region) (negated : Bool) (c : NamedClass)
  | bracketed (region : Region) (negated : Bool) (inner : ClassTree)
  | union (region : Region) (items : List ClassTree)
  | op (region : Region) (op : SetOp) (left right : ClassTree)

def ClassTree.region : ClassTree → Region
  | atom a => a.region
  | range r _ _ | named r _ _ | bracketed r _ _ | union r _ | op r _ _ _ => r

inductive Tree where
  | empty (region : Region)
  | flags (region : Region) (changes : FlagChanges)
  | atom (a : Atom)
  | bracketed (region : Region) (negated : Bool) (inner : ClassTree)
  | repetition (region : Region) (least : Nat) (most : Option Nat) (inner : Tree)
  | group (region : Region) (changes : FlagChanges) (inner : Tree)
  | alternation (region : Region) (branches : List Tree)
  | concat (region : Region) (items : List Tree)

def Tree.region : Tree → Region
  | atom a => a.region
  | empty r | flags r _ | bracketed r _ _ | repetition r _ _ _ | group r _ _ | alternation r _
  | concat r _ => r

/-! ### Depth -/

/-- The first part that lies deeper than `room` in a class, if there is one. -/
def deepInClass (room : Nat) : ClassTree → Option Region
  | .bracketed r _ inner =>
    match room with
    | 0 => some r
    | room + 1 => deepInClass room inner
  | .op r _ left right =>
    match room with
    | 0 => some r
    | room + 1 => (deepInClass room left).or (deepInClass room right)
  | .union r items =>
    match room, items with
    | _, [] => none
    | 0, _ :: _ => some r
    | room + 1, items => deepInItems room items
  | _ => none
where
  deepInItems (room : Nat) : List ClassTree → Option Region
    | [] => none
    | c :: rest => (deepInClass room c).or (deepInItems room rest)

mutual

/-- The first part that lies deeper than `room`, if there is one. -/
def deepPart (room : Nat) : Tree → Option Region
  | .bracketed r _ inner =>
    match room with
    | 0 => some r
    | room + 1 => deepInClass room inner
  | .repetition r _ _ inner | .group r _ inner =>
    match room with
    | 0 => some r
    | room + 1 => deepPart room inner
  | .alternation r items | .concat r items =>
    match room with
    | 0 => some r
    | room + 1 => deepParts room items
  | _ => none

def deepParts (room : Nat) : List Tree → Option Region
  | [] => none
  | t :: rest => (deepPart room t).or (deepParts room rest)

end

end Reshape.Regex
