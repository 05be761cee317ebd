-- SUMMARY: A flush follows references to its end and calls what the set contained, and no set changes with another.
import Flowmeter.Intake.Flush
import Mathlib.Data.List.GetD

/-!
# Flush sets over time

Sets of flushers are added to, nested, copied and flushed in any order. Nesting
takes a copy of the set at that moment, also of a set into itself, so what a
set contains is told by the commands that came before.

In memory a set holds references to its members. A copy has the references of
its original, and a flush that meets the reference of a nested copy goes on
with the references in it. It comes to an end because a copy is made before
any reference to it and never changes afterwards.
-/

namespace Flowmeter.Intake

variable {α : Type}

/-! ## Lists of sets -/

theorem getD_modify {β : Type} (l : List β) (i k : Nat) (f : β → β) (d : β) :
    (l.modify i f).getD k d = if k = i ∧ k < l.length then f (l.getD k d) else l.getD k d := by
  grind

theorem getD_concat {β : Type} (l : List β) (a : β) (k : Nat) (d : β) :
    (l ++ [a]).getD k d = if k = l.length then a else l.getD k d := by
  grind

/-! ## Sets by reference -/

/-- What a reference leads to. -/
inductive Referent (α : Type) where
  | single (member : α)
  /-- A copy of a set, by the references that it holds. -/
  | copied (members : List Nat)

/-- Sets of flushers, and what is shared between them. -/
structure References (α : Type) where
  referents : List (Referent α)
  /-- The references that each set holds, in the order in which they were added. -/
  sets : List (List Nat)

namespace References

def start (n : Nat) : References α := { referents := [], sets := List.replicate n [] }

/-- Adds a reference to something new. -/
def attach (s : References α) (set : Nat) (referent : Referent α) : References α where
  referents := s.referents ++ [referent]
  sets := s.sets.modify set (· ++ [s.referents.length])

def apply (s : References α) : FlushCommand α → References α
  | .add set member => s.attach set (.single member)
  | .nest set inner => s.attach set (.copied (s.sets.getD inner []))
  | .copy set => { s with sets := s.sets ++ [s.sets.getD set []] }
  | .flush _ => s

/-- A flush of the references comes to its end, and it has called `called` by then. -/
inductive Flushes (referents : List (Referent α)) : List Nat → List α → Prop where
  | done : Flushes referents [] []
  | single {ref : Nat} {refs : List Nat} {member : α} {called : List α}
      (href : referents[ref]? = some (.single member)) (hrest : Flushes referents refs called) :
    Flushes referents (ref :: refs) (member :: called)
  | copied {ref : Nat} {refs members : List Nat} {inner called : List α}
      (href : referents[ref]? = some (.copied members)) (hinner : Flushes referents members inner)
      (hrest : Flushes referents refs called) :
    Flushes referents (ref :: refs) (inner ++ called)

namespace Flushes

variable {referents : List (Referent α)} {refs refs' : List Nat} {called called' : List α}

theorem unique (h : Flushes referents refs called) (h' : Flushes referents refs called') :
    called = called' := by
  induction h generalizing called' with
  | done =>
    cases h'
    rfl
  | single href _ ih =>
    cases h' with
    | single href' hrest' =>
      cases href.symm.trans href'
      rw [ih hrest']
    | copied href' => cases href.symm.trans href'
  | copied href _ _ ihinner ih =>
    cases h' with
    | single href' => cases href.symm.trans href'
    | copied href' hinner' hrest' =>
      cases href.symm.trans href'
      rw [ihinner hinner', ih hrest']

/-- What is referred to stays there when more comes. -/
theorem mono (h : Flushes referents refs called) (more : List (Referent α)) :
    Flushes (referents ++ more) refs called := by
  have hkeep : ∀ {ref : Nat} {referent : Referent α}, referents[ref]? = some referent →
      (referents ++ more)[ref]? = some referent := by
    intro ref referent href
    rw [List.getElem?_append_left (List.getElem?_eq_some_iff.1 href).1, href]
  induction h with
  | done => exact .done
  | single href _ ih => exact .single (hkeep href) ih
  | copied href _ _ ihinner ih => exact .copied (hkeep href) ihinner ih

theorem append (h : Flushes referents refs called) (h' : Flushes referents refs' called') :
    Flushes referents (refs ++ refs') (called ++ called') := by
  induction h with
  | done => exact h'
  | single href _ ih => exact .single href ih
  | copied href hinner _ _ ih =>
    rw [List.append_assoc]
    exact .copied href hinner ih

end Flushes

/-- A flush of the set `k` comes to its end with `called`. -/
def FlushEnds (s : References α) (k : Nat) (called : List α) : Prop :=
  Flushes s.referents (s.sets.getD k []) called

/-- The flush of each set ends, and calls whom the set as a value says. -/
structure StandsFor (s : References α) (sets : List (FlushSet α)) : Prop where
  length_eq : s.sets.length = sets.length
  flushEnds : ∀ k, s.FlushEnds k (sets.getD k .empty).calls

variable {s : References α} {sets : List (FlushSet α)}

theorem standsFor_start (n : Nat) :
    (start n : References α).StandsFor (List.replicate n .empty) where
  length_eq := by simp [start]
  flushEnds k := by
    simp only [FlushEnds, start, List.getD_eq_getElem?_getD,
      List.getElem?_getD_replicate_default_eq]
    exact .done

/-- A set that gets a reference calls what this one leads to after all others. -/
theorem StandsFor.attach (h : s.StandsFor sets) (set : Nat) {referent : Referent α}
    {f : FlushSet α → FlushSet α} {called : List α}
    (hf : ∀ set, (f set).calls = set.calls ++ called)
    (hnew : Flushes (s.referents ++ [referent]) [s.referents.length] called) :
    (s.attach set referent).StandsFor (sets.modify set f) where
  length_eq := by simp [References.attach, h.length_eq]
  flushEnds k := by
    have hold := (h.flushEnds k).mono [referent]
    simp only [FlushEnds, References.attach, getD_modify, h.length_eq]
    split
    · rw [hf]
      exact hold.append hnew
    · exact hold

theorem StandsFor.apply (h : s.StandsFor sets) (command : FlushCommand α) :
    (s.apply command).StandsFor (command.run sets).1 := by
  have hnew : ∀ referent : Referent α,
      (s.referents ++ [referent])[s.referents.length]? = some referent :=
    fun _ => List.getElem?_concat_length
  cases command with
  | add set member => exact h.attach set (fun _ => rfl) (.single (hnew _) .done)
  | nest set inner =>
    refine h.attach set (fun _ => rfl) ?_
    simpa using Flushes.copied (hnew _) ((h.flushEnds inner).mono _) .done
  | copy set =>
    refine ⟨by simp [References.apply, FlushCommand.run, h.length_eq], fun k => ?_⟩
    simp only [FlushEnds, References.apply, FlushCommand.run, getD_concat, h.length_eq]
    split
    · exact h.flushEnds set
    · exact h.flushEnds k
  | flush set => exact h

end References

/-! ## What a history says -/

/-- The commands that were given, the latest one first. -/
abbrev FlushHistory (α : Type) := List (FlushCommand α)

namespace FlushCommand

/-- The set to which a command adds. -/
def target? : FlushCommand α → Option Nat
  | .add set _ | .nest set _ => some set
  | .copy _ | .flush _ => none

def isCopy : FlushCommand α → Bool
  | .copy _ => true
  | _ => false

/-- What the set `k` gets with a command, if there were `size` sets with `contents` before. -/
def gain (size : Nat) (contents : Nat → List α) (k : Nat) : FlushCommand α → List α
  | .add set member => if k = set ∧ k < size then [member] else []
  | .nest set inner => if k = set ∧ k < size then contents inner else []
  | .copy set => if k = size then contents set else []
  | .flush _ => []

end FlushCommand

namespace FlushHistory

open FlushCommand

variable {n : Nat} {history later : FlushHistory α} {command : FlushCommand α} {k : Nat}

/-- How many sets there are, if there were `n` at first. -/
def setCount (n : Nat) (history : FlushHistory α) : Nat := n + history.countP isCopy

/-- What the set `k` contains, one by one: what it got with each command. With a nested copy that
is what the copied set contained before the command. -/
def contents (n : Nat) : FlushHistory α → Nat → List α
  | [], _ => []
  | command :: earlier, k =>
    contents n earlier k ++ command.gain (setCount n earlier) (contents n earlier) k

/-- The sets as values after a history that begins with `n` empty sets. -/
def sets (n : Nat) : FlushHistory α → List (FlushSet α)
  | [] => List.replicate n .empty
  | command :: earlier => (command.run (sets n earlier)).1

/-- The sets by reference. -/
def references (n : Nat) : FlushHistory α → References α
  | [] => .start n
  | command :: earlier => (references n earlier).apply command

/-- Whom a flush of the set `k` calls. -/
def called (n : Nat) (history : FlushHistory α) (k : Nat) : List α :=
  ((FlushCommand.flush k).run (sets n history)).2

theorem references_standsFor (n : Nat) (history : FlushHistory α) :
    (references n history).StandsFor (sets n history) := by
  induction history with
  | nil => exact References.standsFor_start n
  | cons command earlier ih => exact ih.apply command

theorem length_sets (n : Nat) (history : FlushHistory α) :
    (sets n history).length = setCount n history := by
  induction history with
  | nil => simp [sets, setCount]
  | cons command earlier ih =>
    cases command <;>
      simp [sets, FlushCommand.run, ih, setCount, isCopy, List.countP_cons, Nat.add_assoc]

theorem called_nil (n k : Nat) : called n ([] : FlushHistory α) k = [] := by
  simp only [called, FlushCommand.run, sets, List.getD_eq_getElem?_getD,
    List.getElem?_getD_replicate_default_eq, FlushSet.calls]

/-- A set that is not there calls nobody. -/
theorem called_of_le (h : setCount n history ≤ k) : called n history k = [] := by
  rw [← length_sets] at h
  simp only [called, FlushCommand.run, List.getD_eq_default _ _ h, FlushSet.calls]

theorem called_cons (n : Nat) (command : FlushCommand α) (earlier : FlushHistory α) (k : Nat) :
    called n (command :: earlier) k
      = called n earlier k ++ command.gain (setCount n earlier) (called n earlier) k := by
  cases command with
  | add set member =>
    simp only [called, sets, FlushCommand.run, gain, getD_modify, length_sets]
    split <;> simp [FlushSet.calls]
  | nest set inner =>
    simp only [called, sets, FlushCommand.run, gain, getD_modify, length_sets]
    split <;> simp [FlushSet.calls]
  | copy set =>
    have hcopy : called n (.copy set :: earlier) k
        = if k = setCount n earlier then called n earlier set else called n earlier k := by
      simp only [called, sets, FlushCommand.run, getD_concat, length_sets]
      split <;> rfl
    rw [hcopy, gain]
    split
    · next heq => rw [called_of_le (Nat.le_of_eq heq.symm), List.nil_append]
    · rw [List.append_nil]
  | flush set => exact (List.append_nil _).symm

theorem called_eq_contents (n : Nat) (history : FlushHistory α) :
    called n history = contents n history := by
  funext k
  induction history generalizing k with
  | nil => exact called_nil n k
  | cons command earlier ih => rw [called_cons, contents, ih, funext ih]

/-! ## What a set has from others stays -/

theorem gain_of_target?_ne {size : Nat} {before : Nat → List α} (hsize : k < size)
    (h : command.target? ≠ some k) : command.gain size before k = [] := by
  cases command with
  | add set member =>
    have hne : k ≠ set := fun heq => h (congrArg some heq.symm)
    simp [gain, hne]
  | nest set inner =>
    have hne : k ≠ set := fun heq => h (congrArg some heq.symm)
    simp [gain, hne]
  | copy set => simp [gain, Nat.ne_of_lt hsize]
  | flush set => rfl

theorem setCount_le_append : setCount n history ≤ setCount n (later ++ history) := by
  simp only [setCount, List.countP_append]
  omega

theorem called_append (hk : k < setCount n history)
    (h : ∀ command ∈ later, command.target? ≠ some k) :
    called n (later ++ history) k = called n history k := by
  induction later with
  | nil => rfl
  | cons command later ih =>
    have hk' : k < setCount n (later ++ history) := Nat.lt_of_lt_of_le hk setCount_le_append
    rw [List.cons_append, called_cons, gain_of_target?_ne hk' (h command List.mem_cons_self),
      List.append_nil, ih fun command hmem => h command (List.mem_cons_of_mem _ hmem)]

/-! ## All histories -/

/-- After any commands, a flush of a set, followed along the references in memory, comes to its
end. It has called what the set contained at that moment, each as often as it occurs there, a
nested copy having what its original contained when it was nested. Commands that add to other
sets, be they originals or copies of this one, change nothing in whom it calls. -/
theorem flush_calls_contents (n : Nat) (history : FlushHistory α) (k : Nat) :
    (∃ calls, (references n history).FlushEnds k calls) ∧
    (∀ calls, (references n history).FlushEnds k calls →
      calls = called n history k ∧ calls = contents n history k) ∧
    ∀ later : FlushHistory α, k < setCount n history →
      (∀ command ∈ later, command.target? ≠ some k) →
      called n (later ++ history) k = called n history k := by
  have hends : (references n history).FlushEnds k (called n history k) :=
    (references_standsFor n history).flushEnds k
  refine ⟨⟨_, hends⟩, fun calls hcalls => ?_, fun later hk h => called_append hk h⟩
  rw [← called_eq_contents]
  exact ⟨hcalls.unique hends, hcalls.unique hends⟩

/-- A set is nested in itself, copied and nested in itself once more. -/
def doubledTwice : FlushHistory Nat := [.nest 0 0, .copy 0, .nest 0 0, .add 0 5]

/-- The copy gets more members, and the set last. -/
def copyGrows : FlushHistory Nat := [.nest 1 0, .add 1 7]

theorem flush_calls_contents_doubledTwice :
    ∃ calls, (references 1 doubledTwice).FlushEnds 0 calls ∧
      calls = called 1 doubledTwice 0 ∧ calls = contents 1 doubledTwice 0 ∧
      calls = [5, 5, 5, 5] ∧ 0 < setCount 1 doubledTwice ∧
      (∀ command ∈ copyGrows, command.target? ≠ some 0) ∧
      called 1 (copyGrows ++ doubledTwice) 0 = called 1 doubledTwice 0 ∧
      called 1 (copyGrows ++ doubledTwice) 1 = [5, 5, 7, 5, 5, 5, 5] := by
  obtain ⟨⟨calls, hends⟩, hcalls, hkept⟩ := flush_calls_contents 1 doubledTwice 0
  obtain ⟨hcalled, hcontents⟩ := hcalls calls hends
  have hthere : 0 < setCount 1 doubledTwice := by decide
  have hothers : ∀ command ∈ copyGrows, command.target? ≠ some 0 := by decide
  exact ⟨calls, hends, hcalled, hcontents, hcontents, hthere, hothers,
    hkept copyGrows hthere hothers, rfl⟩

end FlushHistory

end Flowmeter.Intake
