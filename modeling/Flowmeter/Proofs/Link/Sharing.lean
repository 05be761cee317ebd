-- SUMMARY: Holders that were cloned from one another see the latest update of their table, and no other table changes.
import Flowmeter.Link.Table
import Mathlib.Data.List.GetD
import Mathlib.Logic.Relation

/-!
# Shared tables

Holders of link tables are made, cloned and used in any order. A run is any
sequence of such acts; in it a holder is known by its place among those that
were made. Clones of one holder, and clones of clones, share a table. What a
holder finds in it comes from the latest update through any of them.
-/

namespace Flowmeter.Link

/-! ## One table -/

namespace Table

variable {t u : Table} {index : UInt32} {name : String}

/-- The last pair of `t` with `index` has `name`. -/
def Names (t : Table) (index : UInt32) (name : String) : Prop :=
  ∃ before after, t = before ++ (index, name) :: after ∧ ∀ link ∈ after, link.1 ≠ index

theorem lookup_eq_some_iff : t.lookup index = some name ↔ t.Names index name := by
  simp only [lookup, Names, List.lookup_eq_some_iff, bne_iff_ne]
  constructor
  · rintro ⟨after, before, hsplit, hafter⟩
    refine ⟨before.reverse, after.reverse, ?_, fun link hlink => ?_⟩
    · simpa using congrArg List.reverse hsplit
    · exact (hafter link (List.mem_reverse.1 hlink)).symm
  · rintro ⟨before, after, rfl, hafter⟩
    refine ⟨after.reverse, before.reverse, by simp, fun link hlink => ?_⟩
    exact (hafter link (List.mem_reverse.1 hlink)).symm

theorem lookup_eq_none_iff : t.lookup index = none ↔ ∀ link ∈ t, link.1 ≠ index := by
  simp only [lookup, List.lookup_eq_none_iff, bne_iff_ne, List.mem_reverse]
  exact forall₂_congr fun link _ => ne_comm

/-- Only the indices of their pairs have to be compared, as others are in neither table. -/
theorem agrees_iff : t.agrees u = true ↔ ∀ index, t.lookup index = u.lookup index := by
  simp only [agrees, List.all_eq_true, beq_iff_eq]
  refine ⟨fun hall index => ?_, fun hall link _ => hall link.1⟩
  by_cases hmem : ∃ link ∈ t ++ u, link.1 = index
  · obtain ⟨link, hlink, rfl⟩ := hmem
    exact hall link hlink
  · have hnone : ∀ link ∈ t ++ u, link.1 ≠ index := fun link hlink heq => hmem ⟨link, hlink, heq⟩
    rw [lookup_eq_none_iff.2 fun link hlink => hnone link (List.mem_append_left _ hlink),
      lookup_eq_none_iff.2 fun link hlink => hnone link (List.mem_append_right _ hlink)]

end Table

theorem Tables.update_eq_true_iff {ts : Tables} {holder : Holder} {t : Table} :
    (ts.update holder t).1 = true ↔
      ∃ index, t.lookup index ≠ (ts.table holder).lookup index := by
  simp only [update, Bool.not_eq_true', ← Bool.not_eq_true, Table.agrees_iff, Classical.not_forall]
  exact exists_congr fun index => ne_comm

/-! ## Runs -/

/-- What is done with holders, each known by its place. -/
inductive Act where
  /-- Makes a holder of a new table, which is empty. -/
  | create
  /-- Makes another holder of the same table. -/
  | clone (place : Nat)
  | update (place : Nat) (t : Table)
  | lookup (place : Nat) (index : UInt32)
deriving DecidableEq

/-- The holders in the order in which they were made, and all tables. -/
structure Holders where
  holders : List Holder
  tables : Tables

namespace Holders

def start : Holders := { holders := [], tables := .empty }

def create (s : Holders) : Holders :=
  let (holder, tables) := s.tables.create []
  { holders := s.holders ++ [holder], tables }

def clone (s : Holders) (place : Nat) : Option Holders :=
  s.holders[place]?.map fun holder => { s with holders := s.holders ++ [holder] }

/-- Says whether any name has changed. -/
def update (s : Holders) (place : Nat) (t : Table) : Option (Bool × Holders) :=
  s.holders[place]?.map fun holder =>
    let (changed, tables) := s.tables.update holder t
    (changed, { s with tables })

def lookup (s : Holders) (place : Nat) (index : UInt32) : Option (Option String) :=
  s.holders[place]?.map fun holder => s.tables.lookup holder index

/-- The holders after an act, which needs a holder at the place that it names. -/
def next (s : Holders) : Act → Option Holders
  | .create => some s.create
  | .clone place => s.clone place
  | .update place t => (s.update place t).map Prod.snd
  | .lookup place index => (s.lookup place index).map fun _ => s

def run (s : Holders) : List Act → Option Holders
  | [] => some s
  | act :: acts => (s.next act).bind (·.run acts)

end Holders

/-! ## Who shares a table -/

namespace Act

/-- How many holders the acts make. -/
def made (acts : List Act) : Nat :=
  acts.countP fun
    | .create | .clone _ => true
    | _ => false

theorem made_append (acts acts' : List Act) : made (acts ++ acts') = made acts + made acts' :=
  List.countP_append

/-- The holder at place `j` was made as a clone of the one at place `i`. -/
def Cloned (acts : List Act) (i j : Nat) : Prop :=
  ∃ before after, acts = before ++ .clone i :: after ∧ j = made before

/-- One can get from the one holder to the other by steps between a holder and its clone. -/
def Shares (acts : List Act) : Nat → Nat → Prop := Relation.EqvGen (Cloned acts)

/-- The last update through a holder that shares the table of the one at `place` is `t`. -/
def IsLatest (acts : List Act) (place : Nat) (t : Table) : Prop :=
  ∃ before i after, acts = before ++ .update i t :: after ∧ Shares acts i place ∧
    ∀ j u, .update j u ∈ after → ¬ Shares acts j place

end Act

open Act (made Shares IsLatest)

namespace Holders

variable {s s' : Holders} {act : Act} {acts acts' : List Act} {holder : Holder} {i j place : Nat}
  {t : Table}

/-! ## One act -/

/-- What an act can do. -/
inductive Step (s : Holders) : Act → Holders → Prop where
  | create :
    Step s .create
      { holders := s.holders ++ [⟨s.tables.tables.length⟩], tables := ⟨s.tables.tables ++ [[]]⟩ }
  | clone {place : Nat} {holder : Holder} (hplace : s.holders[place]? = some holder) :
    Step s (.clone place) { s with holders := s.holders ++ [holder] }
  | update {place : Nat} {holder : Holder} {t : Table} (hplace : s.holders[place]? = some holder) :
    Step s (.update place t) { s with tables := (s.tables.update holder t).2 }
  | lookup {place : Nat} {holder : Holder} {index : UInt32}
      (hplace : s.holders[place]? = some holder) :
    Step s (.lookup place index) s

theorem step_of_next (h : s.next act = some s') : Step s act s' := by
  cases act with
  | create =>
    cases h
    exact .create
  | clone place =>
    obtain ⟨holder, hplace, rfl⟩ := Option.map_eq_some_iff.1 h
    exact .clone hplace
  | update place t =>
    obtain ⟨⟨changed, _⟩, hupdate, rfl⟩ := Option.map_eq_some_iff.1 h
    obtain ⟨holder, hplace, heq⟩ := Option.map_eq_some_iff.1 hupdate
    cases heq
    exact .update hplace
  | lookup place index =>
    obtain ⟨found, hlookup, rfl⟩ := Option.map_eq_some_iff.1 h
    obtain ⟨holder, hplace, -⟩ := Option.map_eq_some_iff.1 hlookup
    exact .lookup hplace

theorem run_cons : s.run (act :: acts) = some s' ↔
    ∃ s₁, s.next act = some s₁ ∧ s₁.run acts = some s' :=
  Option.bind_eq_some_iff

theorem run_append : s.run (acts ++ acts') = some s' ↔
    ∃ s₁, s.run acts = some s₁ ∧ s₁.run acts' = some s' := by
  induction acts generalizing s with
  | nil => simp [run]
  | cons act acts ih =>
    simp only [List.cons_append, run_cons, ih]
    constructor
    · rintro ⟨s₁, hnext, s₂, hrun, hrun'⟩
      exact ⟨s₂, ⟨s₁, hnext, hrun⟩, hrun'⟩
    · rintro ⟨s₂, ⟨s₁, hnext, hrun⟩, hrun'⟩
      exact ⟨s₁, hnext, s₂, hrun, hrun'⟩

/-- Holders stay as they are once they are made. -/
theorem Step.holders_kept (h : Step s act s') : s.holders <+: s'.holders := by
  cases h with
  | create => exact List.prefix_append _ _
  | clone => exact List.prefix_append _ _
  | update => exact List.prefix_rfl
  | lookup => exact List.prefix_rfl

theorem holders_kept_of_run (h : s.run acts = some s') : s.holders <+: s'.holders := by
  induction acts generalizing s with
  | nil =>
    cases h
    exact List.prefix_rfl
  | cons act acts ih =>
    obtain ⟨s₁, hnext, hrun⟩ := run_cons.1 h
    exact (step_of_next hnext).holders_kept.trans (ih hrun)

theorem Step.length_eq (h : Step s act s') : s'.holders.length = s.holders.length + made [act] := by
  cases h with
  | create => exact List.length_append
  | clone => exact List.length_append
  | update => rfl
  | lookup => rfl

theorem getElem?_of_prefix {l l' : List Holder} (h : l <+: l') (hplace : l[place]? = some holder) :
    l'[place]? = some holder := by
  obtain ⟨rest, rfl⟩ := h
  exact List.getElem?_append_left (List.getElem?_eq_some_iff.1 hplace).1 ▸ hplace

theorem getElem?_concat_eq_some_iff {l : List Holder} {new : Holder} :
    (l ++ [new])[place]? = some holder ↔
      l[place]? = some holder ∨ place = l.length ∧ holder = new := by
  grind

/-! ## What a table holds -/

/-- Each holder has a table. -/
def Valid (s : Holders) : Prop := ∀ holder ∈ s.holders, holder.number < s.tables.tables.length

theorem Valid.lt (h : s.Valid) (hplace : s.holders[place]? = some holder) :
    holder.number < s.tables.tables.length :=
  h holder (List.mem_of_getElem? hplace)

theorem Step.valid (h : Step s act s') (hs : s.Valid) : s'.Valid := by
  cases h with
  | create =>
    intro holder hmem
    rw [List.length_append, List.length_singleton]
    rcases List.mem_append.1 hmem with hmem | hmem
    · exact Nat.lt_succ_of_lt (hs holder hmem)
    · obtain rfl := List.mem_singleton.1 hmem
      exact Nat.lt_succ_self _
  | clone hplace =>
    intro holder hmem
    rcases List.mem_append.1 hmem with hmem | hmem
    · exact hs holder hmem
    · obtain rfl := List.mem_singleton.1 hmem
      exact hs.lt hplace
  | update hplace =>
    intro holder hmem
    simpa [Tables.update] using hs holder hmem
  | lookup => exact hs

/-- What an act puts into the table of `holder`. -/
def written (holders : List Holder) (holder : Holder) : Act → Option Table
  | .update place t => if holders[place]? = some holder then some t else none
  | _ => none

theorem written_eq_some_iff {holders : List Holder} :
    written holders holder act = some t ↔
      ∃ place, act = .update place t ∧ holders[place]? = some holder := by
  cases act with
  | update place u => simp [written, and_comm, and_assoc]
  | _ => simp [written]

/-- What the last act that concerns the table of `holder` puts into it. -/
def latest (holders : List Holder) (holder : Holder) (acts : List Act) : Option Table :=
  acts.reverse.findSome? (written holders holder)

theorem latest_cons {holders : List Holder} :
    latest holders holder (act :: acts)
      = (latest holders holder acts).or (written holders holder act) := by
  rw [latest, List.reverse_cons, List.findSome?_append, latest]
  simp

theorem latest_eq_some_iff {holders : List Holder} :
    latest holders holder acts = some t ↔
      ∃ before place after, acts = before ++ .update place t :: after ∧
        holders[place]? = some holder ∧
        ∀ place' t', .update place' t' ∈ after → holders[place']? ≠ some holder := by
  simp only [latest, List.findSome?_eq_some_iff, written_eq_some_iff]
  constructor
  · rintro ⟨after, _, before, hsplit, ⟨place, rfl, hplace⟩, hafter⟩
    refine ⟨before.reverse, place, after.reverse, ?_, hplace, fun place' t' hmem hplace' => ?_⟩
    · simpa using congrArg List.reverse hsplit
    · have hnone := hafter _ (List.mem_reverse.1 hmem)
      simp [written, hplace'] at hnone
  · rintro ⟨before, place, after, rfl, hplace, hafter⟩
    refine ⟨after.reverse, _, before.reverse, by simp, ⟨place, rfl, hplace⟩, fun act hmem => ?_⟩
    cases hact : written holders holder act with
    | none => rfl
    | some t' =>
      obtain ⟨place', rfl, hplace'⟩ := written_eq_some_iff.1 hact
      exact absurd hplace' (hafter _ _ (List.mem_reverse.1 hmem))

theorem table_update (hs : s.Valid) (hplace : s.holders[place]? = some holder) (other : Holder) :
    (s.tables.update holder t).2.table other
      = if holder = other then t else s.tables.table other := by
  have hlt := hs.lt hplace
  simp only [Tables.update, Tables.table, List.getD_eq_getElem?_getD]
  by_cases heq : holder = other
  · subst heq
    simp [hlt]
  · have hne : holder.number ≠ other.number := by
      intro hnumber
      cases holder
      cases other
      exact heq (congrArg Holder.mk hnumber)
    simp [heq, hne]

/-- A table that is not there yet is empty, as it is when it is made. -/
theorem Step.table_eq (h : Step s act s') (hs : s.Valid) {holders : List Holder}
    (hkept : s'.holders <+: holders) :
    s'.tables.table holder = (written holders holder act).getD (s.tables.table holder) := by
  cases h with
  | create =>
    simp only [written, Option.getD_none, Tables.table]
    rcases Nat.lt_or_ge holder.number s.tables.tables.length with hlt | hge
    · exact List.getD_append _ _ _ _ hlt
    · rw [List.getD_append_right _ _ _ _ hge, List.getD_eq_default _ _ hge,
        List.getD_eq_getElem?_getD, List.getElem?_getD_singleton_default_eq]
  | clone => rfl
  | @update place written t hplace =>
    have hplace' := getElem?_of_prefix hkept hplace
    simp only [table_update hs hplace, Holders.written, hplace', Option.some.injEq]
    split <;> rfl
  | lookup => rfl

theorem table_of_run (h : s.run acts = some s') (hs : s.Valid) :
    s'.tables.table holder = (latest s'.holders holder acts).getD (s.tables.table holder) := by
  induction acts generalizing s with
  | nil =>
    cases h
    rfl
  | cons act acts ih =>
    obtain ⟨s₁, hnext, hrun⟩ := run_cons.1 h
    have hstep := step_of_next hnext
    rw [ih hrun (hstep.valid hs), hstep.table_eq hs (holders_kept_of_run hrun), latest_cons]
    cases latest s'.holders holder acts <;> rfl

/-! ## Sharing is having the same table -/

theorem shares_mono (h : Shares acts i j) (act : Act) : Shares (acts ++ [act]) i j := by
  refine Relation.EqvGen.mono (fun i j hcloned => ?_) i j h
  obtain ⟨before, after, rfl, rfl⟩ := hcloned
  exact ⟨before, after ++ [act], by simp, rfl⟩

/-- Holders of one table go back to one that was made for it. -/
structure Tracks (acts : List Act) (s : Holders) : Prop where
  valid : s.Valid
  length_eq : s.holders.length = made acts
  shares : ∀ i j holder, s.holders[i]? = some holder → s.holders[j]? = some holder →
    Shares acts i j

theorem tracks_start : Tracks [] start where
  valid := by simp [Valid, start]
  length_eq := rfl
  shares := by simp [start]

theorem Step.tracks (h : Step s act s') (hs : Tracks acts s) : Tracks (acts ++ [act]) s' := by
  refine ⟨h.valid hs.valid, ?_, fun i j holder hi hj => ?_⟩
  · rw [h.length_eq, hs.length_eq, Act.made_append]
  cases h with
  -- No holder has had the number of the new table before.
  | create =>
    have hfresh : ∀ k : Nat, s.holders[k]? ≠ some ⟨s.tables.tables.length⟩ := by
      intro k hk
      exact Nat.lt_irrefl _ (hs.valid.lt hk)
    rcases getElem?_concat_eq_some_iff.1 hi with hold | ⟨rfl, rfl⟩
    · rcases getElem?_concat_eq_some_iff.1 hj with hold' | ⟨-, rfl⟩
      · exact shares_mono (hs.shares i j holder hold hold') _
      · exact absurd hold (hfresh i)
    · rcases getElem?_concat_eq_some_iff.1 hj with hold' | ⟨rfl, -⟩
      · exact absurd hold' (hfresh j)
      · exact .refl _
  | @clone place _ hplace =>
    have hclone : Shares (acts ++ [.clone place]) place s.holders.length :=
      .rel _ _ ⟨acts, [], rfl, hs.length_eq⟩
    rcases getElem?_concat_eq_some_iff.1 hi with hold | ⟨rfl, rfl⟩
    · rcases getElem?_concat_eq_some_iff.1 hj with hold' | ⟨rfl, rfl⟩
      · exact shares_mono (hs.shares i j holder hold hold') _
      · exact .trans _ _ _ (shares_mono (hs.shares i place _ hold hplace) _) hclone
    · rcases getElem?_concat_eq_some_iff.1 hj with hold' | ⟨rfl, -⟩
      · exact .trans _ _ _ (.symm _ _ hclone) (shares_mono (hs.shares place j _ hplace hold') _)
      · exact .refl _
  | update => exact shares_mono (hs.shares i j holder hi hj) _
  | lookup => exact shares_mono (hs.shares i j holder hi hj) _

theorem tracks_of_run (hrun : start.run acts = some s) : Tracks acts s := by
  suffices h : ∀ (before : List Act) (s₀ : Holders), Tracks before s₀ → s₀.run acts = some s →
      Tracks (before ++ acts) s from h [] start tracks_start hrun
  clear hrun
  induction acts with
  | nil =>
    intro before s₀ hs₀ hrun
    cases hrun
    simpa using hs₀
  | cons act acts ih =>
    intro before s₀ hs₀ hrun
    obtain ⟨s₁, hnext, hrun⟩ := run_cons.1 hrun
    simpa using ih (before ++ [act]) s₁ ((step_of_next hnext).tracks hs₀) hrun

/-- A clone has the table of the holder that it was made from, and keeps it. -/
theorem holders_eq_of_shares (hrun : start.run acts = some s) (h : Shares acts i j) :
    s.holders[i]? = s.holders[j]? := by
  induction h with
  | rel i j hcloned =>
    obtain ⟨before, after, rfl, rfl⟩ := hcloned
    obtain ⟨s₁, hbefore, hrest⟩ := run_append.1 hrun
    obtain ⟨s₂, hnext, hafter⟩ := run_cons.1 hrest
    have hkept := holders_kept_of_run hafter
    cases step_of_next hnext with
    | clone hplace =>
      have hnew := getElem?_of_prefix hkept List.getElem?_concat_length
      have hold := getElem?_of_prefix hkept (getElem?_concat_eq_some_iff.2 (.inl hplace))
      rw [← (tracks_of_run hbefore).length_eq, hnew, hold]
  | refl => rfl
  | symm i j _ ih => exact ih.symm
  | trans i j k _ _ ih ih' => exact ih.trans ih'

theorem shares_iff (hrun : start.run acts = some s) (hplace : s.holders[place]? = some holder) :
    Shares acts i place ↔ s.holders[i]? = some holder := by
  constructor
  · intro hshares
    rw [holders_eq_of_shares hrun hshares, hplace]
  · exact fun hi => (tracks_of_run hrun).shares i place holder hi hplace

/-! ## Lookups and updates -/

theorem latest_eq_some_iff_isLatest (hrun : start.run acts = some s)
    (hplace : s.holders[place]? = some holder) :
    latest s.holders holder acts = some t ↔ IsLatest acts place t := by
  simp only [latest_eq_some_iff, IsLatest, shares_iff hrun hplace]

theorem table_lookup_eq_some_iff (hrun : start.run acts = some s)
    (hplace : s.holders[place]? = some holder) {index : UInt32} {name : String} :
    s.tables.lookup holder index = some name ↔
      ∃ t, IsLatest acts place t ∧ t.Names index name := by
  have htable : s.tables.table holder = (latest s.holders holder acts).getD [] :=
    table_of_run hrun tracks_start.valid
  simp only [← latest_eq_some_iff_isLatest hrun hplace, ← Table.lookup_eq_some_iff]
  rw [Tables.lookup, htable]
  cases latest s.holders holder acts with
  | none => simp [Table.lookup]
  | some t => simp

theorem lookup_eq (hplace : s.holders[place]? = some holder) (index : UInt32) :
    s.lookup place index = some (s.tables.lookup holder index) := by
  rw [lookup, hplace, Option.map_some]

theorem update_eq (hplace : s.holders[place]? = some holder) (t : Table) :
    s.update place t = some ((s.tables.update holder t).1,
      { s with tables := (s.tables.update holder t).2 }) := by
  rw [update, hplace, Option.map_some]

/-- After any run, a lookup finds what the last pair with its index has in the latest update
through any holder that shares the table, and nothing if that update has no such pair or there
was none. An update changes nothing for holders of other tables, and it says that names have
changed just when some index is looked up differently before and after it. -/
theorem run_looks_up_latest (hrun : start.run acts = some s) (hplace : place < s.holders.length) :
    (∀ index, ∃ found, s.lookup place index = some found ∧
      ∀ name, found = some name ↔ ∃ t, IsLatest acts place t ∧ t.Names index name) ∧
    ∀ t, ∃ changed s', s.update place t = some (changed, s') ∧
      (∀ other, ¬ Shares acts other place →
        ∀ index, s'.lookup other index = s.lookup other index) ∧
      (changed = true ↔ ∃ index, s'.lookup place index ≠ s.lookup place index) := by
  have hholder : s.holders[place]? = some s.holders[place] := List.getElem?_eq_getElem hplace
  have hvalid := (tracks_of_run hrun).valid
  refine ⟨fun index => ⟨_, lookup_eq hholder index, fun name => ?_⟩, fun t =>
    ⟨_, _, update_eq hholder t, fun other hother index => ?_, ?_⟩⟩
  · exact table_lookup_eq_some_iff hrun hholder
  · cases hat : s.holders[other]? with
    | none => simp only [lookup, hat, Option.map_none]
    | some holder =>
      have hne : s.holders[place] ≠ holder := by
        rintro rfl
        exact hother ((shares_iff hrun hholder).2 hat)
      rw [lookup_eq hat, lookup, hat, Option.map_some, Tables.lookup, Tables.lookup,
        table_update hvalid hholder, if_neg hne]
  · have hafter : ∀ index, lookup { s with tables := (s.tables.update s.holders[place] t).2 }
        place index = some (t.lookup index) := by
      intro index
      rw [lookup, hholder, Option.map_some, Tables.lookup, table_update hvalid hholder, if_pos rfl]
    rw [Tables.update_eq_true_iff]
    simp only [hafter, lookup_eq hholder, Tables.lookup, ne_eq, Option.some.injEq]

/-- A holder, a clone of it and a holder of another table. The clone's update is the latest of
the first two, and gives an index twice. -/
def cloneUpdates : List Act :=
  [.create, .clone 0, .create, .update 0 [(3, "foo"), (4, "bar")],
    .update 1 [(4, "bar"), (4, "baz")], .update 2 [(3, "qux")]]

/-- The first holder finds the last name that its clone has given, and an update that gives this
name alone changes nothing. -/
theorem run_looks_up_latest_clone :
    ∃ s, start.run cloneUpdates = some s ∧ 0 < s.holders.length ∧
      s.lookup 0 3 = some none ∧ s.lookup 0 4 = some (some "baz") ∧
      s.lookup 2 3 = some (some "qux") ∧
      (∃ found, s.lookup 0 4 = some found ∧
        ∀ name, found = some name ↔ ∃ t, IsLatest cloneUpdates 0 t ∧ t.Names 4 name) ∧
      ∃ changed s', s.update 0 [(4, "baz")] = some (changed, s') ∧
        (∀ other, ¬ Shares cloneUpdates other 0 →
          ∀ index, s'.lookup other index = s.lookup other index) ∧
        (changed = true ↔ ∃ index, s'.lookup 0 index ≠ s.lookup 0 index) ∧ changed = false := by
  have hrun : start.run cloneUpdates = some _ := rfl
  have hplace : 0 < _ := Nat.zero_lt_succ 2
  obtain ⟨hlookup, hupdate⟩ := run_looks_up_latest hrun hplace
  obtain ⟨changed, s', hanswer, hothers, hchanged⟩ := hupdate [(4, "baz")]
  have hsame : changed = false := by
    cases hanswer
    rfl
  exact ⟨_, hrun, hplace, rfl, rfl, rfl, hlookup 4, changed, s', hanswer, hothers, hchanged, hsame⟩

end Holders

end Flowmeter.Link
