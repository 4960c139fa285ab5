/-
Sets of characters by the names that Unicode gives to properties.

A name is compared in lower case, without blanks, hyphens and underscores, and without `is` before it.

* `Unicode.named` finds a property, a general category or a script;
* `Unicode.valued` finds the characters that have a value for a property.
-/
import Reshape.Unicode.BinaryTable
import Reshape.Unicode.ScriptTable
import Reshape.Unicode.ScriptUseTable
import Reshape.Unicode.Word

namespace Reshape.Unicode

open CategoryTable PropertyTable

inductive NameError where
  | unknownProperty
  | unknownValue
deriving DecidableEq, Repr

def isPrefixMark : List Char → Bool
  | i :: s :: _ => (i == 'i' || i == 'I') && (s == 's' || s == 'S')
  | _ => false

/-- A name in the form in which names are compared. -/
def normalize (name : List Char) : String :=
  let marked := isPrefixMark name
  let kept := ((if marked then name.drop 2 else name).filter fun c =>
    c.toNat < 0x80 && c != ' ' && c != '_' && c != '-').map Char.toLower
  if marked && kept == ['c'] then "isc" else String.ofList kept

/-! ### General categories -/

/-- Every general category, under its names. -/
def categories : List (List String × List CharSet) :=
  [(["lu", "uppercaseletter"], [uppercaseLetter]), (["ll", "lowercaseletter"], [lowercaseLetter]),
   (["lt", "titlecaseletter"], [titlecaseLetter]), (["lm", "modifierletter"], [modifierLetter]),
   (["lo", "otherletter"], [otherLetter]),
   (["lc", "casedletter"], [uppercaseLetter, lowercaseLetter, titlecaseLetter]),
   (["l", "letter"], [letters]),
   (["mn", "nonspacingmark"], [nonspacingMark]), (["mc", "spacingmark"], [spacingMark]),
   (["me", "enclosingmark"], [enclosingMark]), (["m", "mark", "combiningmark"], [marks]),
   (["nd", "decimalnumber", "digit"], [decimalNumber]), (["nl", "letternumber"], [letterNumber]),
   (["no", "othernumber"], [otherNumber]), (["n", "number"], [numbers]),
   (["pc", "connectorpunctuation"], [connectorPunctuation]),
   (["pd", "dashpunctuation"], [dashPunctuation]), (["ps", "openpunctuation"], [openPunctuation]),
   (["pe", "closepunctuation"], [closePunctuation]),
   (["pi", "initialpunctuation"], [initialPunctuation]),
   (["pf", "finalpunctuation"], [finalPunctuation]), (["po", "otherpunctuation"], [otherPunctuation]),
   (["p", "punctuation", "punct"], [connectorPunctuation, dashPunctuation, openPunctuation,
     closePunctuation, initialPunctuation, finalPunctuation, otherPunctuation]),
   (["sm", "mathsymbol"], [mathSymbol]), (["sc", "currencysymbol"], [currencySymbol]),
   (["sk", "modifiersymbol"], [modifierSymbol]), (["so", "othersymbol"], [otherSymbol]),
   (["s", "symbol"], [mathSymbol, currencySymbol, modifierSymbol, otherSymbol]),
   (["zs", "spaceseparator"], [spaceSeparator]), (["zl", "lineseparator"], [lineSeparator]),
   (["zp", "paragraphseparator"], [paragraphSeparator]),
   (["z", "separator"], [spaceSeparator, lineSeparator, paragraphSeparator]),
   (["cc", "control", "cntrl"], [control]), (["cf", "format"], [format]),
   (["co", "privateuse"], [privateUse]), (["cn", "unassigned"], [unassigned]),
   (["c", "other"], [control, format, privateUse, unassigned])]

/-- A general category or a name for all, for all assigned or for the first characters. -/
def category? (name : String) : Option CharSet :=
  if name = "any" then some (.ofRanges [(0, 0x10FFFF)])
  else if name = "assigned" then some unassigned.complement
  else if name = "ascii" then some (.ofRanges [(0, 0x7F)])
  else (categories.find? fun (names, _) => names.contains name).map fun (_, sets) => unionAll sets

/-- The surrogates are a category without characters. -/
def isSurrogateName (name : String) : Bool :=
  name == "cs" || name == "surrogate"

/-! ### Scripts -/

def findScript? (name : String) : Option ScriptTable.Entry :=
  ScriptTable.scripts.find? fun e =>
    normalize e.short.toList == name || normalize e.long.toList == name

def script? (name : String) : Option CharSet :=
  (findScript? name).map fun e => .ofTable e.table

/-- The characters used in a script: those that belong to it and those that it shares. The characters that
scripts share belong to no script of their own. -/
def scriptUse? (name : String) : Option CharSet :=
  (findScript? name).map fun e =>
    let own : CharSet := .ofTable e.table
    if e.long = "Common" ∨ e.long = "Inherited" then
      own.difference (unionAll (ScriptUseTable.shared.map fun (_, table) => .ofTable table))
    else
      match ScriptUseTable.shared.lookup e.long with
      | some table => own.union (.ofTable table)
      | none => own

/-! ### Properties -/

/-- What may start an identifier. -/
def identifierStart : CharSet :=
  (unionAll [letters, letterNumber, BinaryTable.otherIdStart]).difference (.ofRanges [(0x2E2F, 0x2E2F)])

/-- What may continue an identifier. -/
def identifierContinue : CharSet :=
  unionAll [identifierStart, nonspacingMark, spacingMark, decimalNumber, connectorPunctuation,
    BinaryTable.otherIdContinue]

def graphemeExtend : CharSet :=
  unionAll [nonspacingMark, enclosingMark, otherGraphemeExtend]

/-- The properties that the categories determine, up to small corrections. -/
def derived? (name : String) : Option CharSet :=
  match name with
  | "alpha" | "alphabetic" => some alphabetic
  | "lower" | "lowercase" => some (lowercaseLetter.union otherLowercase)
  | "upper" | "uppercase" => some (uppercaseLetter.union otherUppercase)
  | "cased" => some (unionAll [uppercaseLetter, lowercaseLetter, titlecaseLetter, otherLowercase,
      otherUppercase])
  | "ci" | "caseignorable" => some (unionAll [nonspacingMark, enclosingMark, format, modifierLetter,
      modifierSymbol, otherCaseIgnorable])
  | "space" | "wspace" | "whitespace" => some whiteSpace
  | "grext" | "graphemeextend" => some graphemeExtend
  | "grbase" | "graphemebase" => some (unionAll [control, format, privateUse, unassigned, lineSeparator,
      paragraphSeparator, graphemeExtend]).complement
  | "ids" | "idstart" => some identifierStart
  | "idc" | "idcontinue" => some identifierContinue
  | "xids" | "xidstart" => some (identifierStart.difference BinaryTable.closedStart)
  | "xidc" | "xidcontinue" => some (identifierContinue.difference BinaryTable.closedContinue)
  | _ => none

def property? (name : String) : Option CharSet :=
  match derived? name with
  | some s => some s
  | none =>
    (BinaryTable.properties.find? fun e => e.short == name || e.long == name).map fun e =>
      .ofTable e.table

/-- The characters of a property, a general category or a script. -/
def named (name : List Char) : Except NameError CharSet :=
  let name := normalize name
  match property? name with
  | some s => .ok s
  | none =>
    match category? name with
    | some s => .ok s
    | none =>
      if isSurrogateName name then .error .unknownValue
      else
        match script? name with
        | some s => .ok s
        | none => .error .unknownProperty

/-- The characters with a value for a property: a general category or a script. -/
def valued (property value : List Char) : Except NameError CharSet :=
  let orUnknown (s : Option CharSet) : Except NameError CharSet := s.elim (.error .unknownValue) .ok
  let value := normalize value
  match normalize property with
  | "gc" | "generalcategory" | "category" => orUnknown (category? value)
  | "sc" | "script" => orUnknown (script? value)
  | "scx" | "scriptextensions" => orUnknown (scriptUse? value)
  | name => if (property? name).isSome then .error .unknownValue else .error .unknownProperty

end Reshape.Unicode
