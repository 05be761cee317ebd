-- SUMMARY: Reading JSON text.
import Flowmeter.Json.Value
import Flowmeter.Text.Numeral

/-!
# Reading JSON

A reader takes a value off the front of a text and returns what follows.
Every value is checked in full, also where nothing will look at it. Nesting
is bounded by the length of the text only.
-/

namespace Flowmeter.Json

def isSpace (c : Char) : Bool := c = ' ' || c = '\n' || c = '\t' || c = '\r'

def skipSpace (cs : List Char) : List Char := cs.dropWhile isSpace

/-! ## Literals and numbers -/

/-- What follows `word`, if the text starts with it. -/
def afterWord? : List Char → List Char → Option (List Char)
  | [], cs => some cs
  | w :: ws, c :: cs => if w = c then afterWord? ws cs else none
  | _ :: _, [] => none

/-- The digits at the front, of which there must be one at least. -/
def readDigits? (cs : List Char) : Option (List Char × List Char) :=
  match cs.takeWhile (·.isDigit) with
  | [] => none
  | ds => some (ds, cs.dropWhile (·.isDigit))

/-- The digits before the point: a zero stands alone. -/
def readWhole? (cs : List Char) : Option (List Char × List Char) := do
  let (ds, rest) ← readDigits? cs
  if ds.head? = some '0' ∧ ds.length ≠ 1 then none else some (ds, rest)

def afterFraction? : List Char → Option (List Char)
  | '.' :: cs => (readDigits? cs).map (·.2)
  | cs => some cs

def afterExponent? : List Char → Option (List Char)
  | c :: cs =>
    if c = 'e' ∨ c = 'E' then
      match cs with
      | '+' :: cs => (readDigits? cs).map (·.2)
      | '-' :: cs => (readDigits? cs).map (·.2)
      | cs => (readDigits? cs).map (·.2)
    else some (c :: cs)
  | [] => some []

def readNumber? (cs : List Char) : Option (Json × List Char) :=
  match cs with
  | '-' :: cs => do
    let (_, rest) ← readWhole? cs
    return (.otherNumber, ← afterExponent? (← afterFraction? rest))
  | cs => do
    let (ds, whole) ← readWhole? cs
    let rest ← afterExponent? (← afterFraction? whole)
    if rest.length = whole.length then
      return (.natural (← Text.digits? 10 ds), rest)
    else
      return (.otherNumber, rest)

/-! ## Strings -/

def simpleEscape? (c : Char) : Option Char :=
  if c = '"' ∨ c = '\\' ∨ c = '/' then some c
  else if c = 'b' then some '\x08'
  else if c = 'f' then some '\x0c'
  else if c = 'n' then some '\n'
  else if c = 'r' then some '\r'
  else if c = 't' then some '\t'
  else none

/-- The code points of a string up to its closing quote, `seen` being those
before, in reverse. -/
def readString? (seen : List Nat) : List Char → Option (List Nat × List Char)
  | '"' :: cs => some (seen.reverse, cs)
  | '\\' :: 'u' :: a :: b :: c :: d :: cs => do
    let unit ← Text.digits? 16 [a, b, c, d]
    readString? (unit :: seen) cs
  | '\\' :: e :: cs => do
    let c ← simpleEscape? e
    readString? (c.toNat :: seen) cs
  | c :: cs => if c.toNat < 0x20 ∨ c = '\\' then none else readString? (c.toNat :: seen) cs
  | [] => none

/-- A string whose opening quote has been read. -/
def readText? (cs : List Char) : Option (Option String × List Char) := do
  let (units, rest) ← readString? [] cs
  return ((textOfUnits units).map String.ofList, rest)

/-! ## Values -/

mutual

/-- The value at the front of a text. -/
def readValue? : Nat → List Char → Option (Json × List Char)
  | 0, _ => none
  | fuel + 1, cs =>
    match skipSpace cs with
    | '"' :: cs => (readText? cs).map fun (s, rest) => (.string s, rest)
    | '[' :: cs =>
      match skipSpace cs with
      | ']' :: cs => some (.array [], cs)
      | cs => readItems? fuel [] cs
    | '\x7b' :: cs =>
      match skipSpace cs with
      | '\x7d' :: cs => some (.object [], cs)
      | cs => readMembers? fuel [] cs
    | 'n' :: cs => (afterWord? ['u', 'l', 'l'] cs).map fun rest => (.null, rest)
    | 't' :: cs => (afterWord? ['r', 'u', 'e'] cs).map fun rest => (.bool true, rest)
    | 'f' :: cs => (afterWord? ['a', 'l', 's', 'e'] cs).map fun rest => (.bool false, rest)
    | cs => readNumber? cs

/-- The items of an array from one of them on, `seen` being those before, in reverse. -/
def readItems? : Nat → List Json → List Char → Option (Json × List Char)
  | 0, _, _ => none
  | fuel + 1, seen, cs => do
    let (item, rest) ← readValue? fuel cs
    match skipSpace rest with
    | ',' :: rest => readItems? fuel (item :: seen) rest
    | ']' :: rest => some (.array (item :: seen).reverse, rest)
    | _ => none

/-- The members of an object from one of them on, `seen` being those before, in reverse. -/
def readMembers? : Nat → List (Option String × Json) → List Char → Option (Json × List Char)
  | 0, _, _ => none
  | fuel + 1, seen, cs =>
    match skipSpace cs with
    | '"' :: cs => do
      let (key, rest) ← readText? cs
      match skipSpace rest with
      | ':' :: rest => do
        let (value, rest) ← readValue? fuel rest
        match skipSpace rest with
        | ',' :: rest => readMembers? fuel ((key, value) :: seen) rest
        | '\x7d' :: rest => some (.object ((key, value) :: seen).reverse, rest)
        | _ => none
      | _ => none
    | _ => none

end

/-- Reads a text that holds one value and nothing else but white space. -/
def ofChars? (cs : List Char) : Option Json := do
  let (value, rest) ← readValue? (2 * cs.length + 1) cs
  if skipSpace rest = [] then some value else none

end Flowmeter.Json
