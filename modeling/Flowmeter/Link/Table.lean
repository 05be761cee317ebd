-- SUMMARY: Tables of interface names that several holders share.

/-!
# Link tables

A table gives the name of an interface by its index. Holders that were cloned
from one another share one table: an update through any of them replaces it
for all, and other tables are left alone.
-/

namespace Flowmeter.Link

/-- Pairs of an index and a name; of several pairs with one index the last one counts. -/
abbrev Table := List (UInt32 × String)

namespace Table

def lookup (t : Table) (index : UInt32) : Option String := List.lookup index t.reverse

/-- Whether the tables name every index alike. -/
def agrees (t u : Table) : Bool := (t ++ u).all fun link => t.lookup link.1 == u.lookup link.1

end Table

/-- The tables in use; a holder knows the number of its table. -/
structure Tables where
  tables : List Table

/-- A holder of one of the tables. -/
structure Holder where
  number : Nat
deriving DecidableEq

namespace Tables

def empty : Tables := ⟨[]⟩

def table (ts : Tables) (h : Holder) : Table := ts.tables.getD h.number []

/-- A holder of a new table. -/
def create (ts : Tables) (t : Table) : Holder × Tables :=
  (⟨ts.tables.length⟩, ⟨ts.tables ++ [t]⟩)

def lookup (ts : Tables) (h : Holder) (index : UInt32) : Option String :=
  (ts.table h).lookup index

/-- Replaces the table of `h`, and says whether any name has changed. -/
def update (ts : Tables) (h : Holder) (t : Table) : Bool × Tables :=
  (!(ts.table h).agrees t, ⟨ts.tables.set h.number t⟩)

/-- One refresh of the table of `h` from the interfaces of the host, unless the
watch was cancelled before. -/
def refresh (ts : Tables) (h : Holder) (cancelled : Bool) (interfaces : Table) : Tables :=
  if cancelled then ts else (ts.update h interfaces).2

end Tables

end Flowmeter.Link
