-- SUMMARY: Unsigned numerals in base ten and sixteen, read with a limit and written without padding.

/-!
# Numerals

Numbers are written in the fewest digits, letters in lower case. A numeral is
read digit by digit in either case; a numeral of a setting may also start with
a plus sign and with any number of zeros.
-/

namespace Flowmeter.Text

/-- The value of a digit below `base`, which is at most sixteen. -/
def digit? (base : Nat) (c : Char) : Option Nat :=
  let value :=
    if '0' ≤ c ∧ c ≤ '9' then c.toNat - '0'.toNat
    else if 'a' ≤ c ∧ c ≤ 'f' then c.toNat - 'a'.toNat + 10
    else if 'A' ≤ c ∧ c ≤ 'F' then c.toNat - 'A'.toNat + 10
    else base
  if value < base then some value else none

/-- The number that the digits `cs` continue, `acc` being the one read so far. -/
def digitsFrom? (base acc : Nat) : List Char → Option Nat
  | [] => some acc
  | c :: cs => do digitsFrom? base (acc * base + (← digit? base c)) cs

/-- Reads a numeral of at least one digit and nothing else. -/
def digits? (base : Nat) : List Char → Option Nat
  | [] => none
  | cs => digitsFrom? base 0 cs

/-- Reads a numeral below `limit` that may start with a plus sign. -/
def unsigned? (base limit : Nat) (cs : List Char) : Option Nat :=
  let number :=
    match cs with
    | '+' :: cs => digits? base cs
    | cs => digits? base cs
  number.filter (· < limit)

/-- The fewest digits of `n` in `base`. -/
def digits (base n : Nat) : List Char := Nat.toDigits base n

def decimal (n : Nat) : String := String.ofList (digits 10 n)

/-- The digits of `n` in base sixteen, with zeros in front up to `width`. -/
def paddedHex (width n : Nat) : List Char :=
  let ds := digits 16 n
  List.replicate (width - ds.length) '0' ++ ds

end Flowmeter.Text
