-- SUMMARY: Octet strings of a fixed length.

/-!
# Octets

Hardware and network addresses are octet strings of a fixed length, ordered
octet by octet.
-/

namespace Flowmeter

structure Octets (n : Nat) where
  toList : List UInt8
  length_eq : toList.length = n
deriving DecidableEq

namespace Octets

@[ext] theorem ext {n : Nat} {a b : Octets n} (h : a.toList = b.toList) : a = b := by
  cases a; cases b; simp_all

instance (n : Nat) : Ord (Octets n) := ⟨compareOn toList⟩

instance (n : Nat) : Std.TransOrd (Octets n) :=
  inferInstanceAs (Std.TransCmp (compareOn toList))

instance (n : Nat) : Std.LawfulEqOrd (Octets n) where
  eq_of_compare h := ext (Std.LawfulEqOrd.eq_of_compare (α := List UInt8) h)

/-- The octets `bs`, when there are `n` of them. -/
def ofList? (n : Nat) (bs : List UInt8) : Option (Octets n) :=
  if h : bs.length = n then some ⟨bs, h⟩ else none

end Octets

end Flowmeter
