-- SUMMARY: Hardware addresses and their text form.
import Flowmeter.Address.Octets
import Flowmeter.Text.Blank
import Flowmeter.Text.Numeral

/-!
# Hardware addresses

Six octets, written as pairs of hexadecimal digits between colons. Reading is
more liberal: each of the six parts is any hexadecimal numeral below 256.
-/

namespace Flowmeter

structure Mac where
  octets : Octets 6
deriving DecidableEq

namespace Mac

instance : Ord Mac := ⟨compareOn octets⟩

instance : Std.TransOrd Mac := inferInstanceAs (Std.TransCmp (compareOn octets))

instance : Std.LawfulEqOrd Mac where
  eq_of_compare {a b} h := by
    cases a; cases b; exact congrArg _ (Std.LawfulEqOrd.eq_of_compare (α := Octets 6) h)

def chars (mac : Mac) : List Char :=
  [':'].intercalate (mac.octets.toList.map fun b => Text.paddedHex 2 b.toNat)

def text (mac : Mac) : String := String.ofList mac.chars

def ofChars? (cs : List Char) : Option Mac := do
  let parts ← (Text.splitAt ':' cs).mapM (Text.unsigned? 16 256)
  return ⟨← Octets.ofList? 6 (parts.map UInt8.ofNat)⟩

def ofText? (s : String) : Option Mac := ofChars? s.toList

end Mac

end Flowmeter
