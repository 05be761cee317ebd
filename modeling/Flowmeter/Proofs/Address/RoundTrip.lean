-- SUMMARY: The text of a hardware or internet address is read as the address, with and without zero groups left out.
import Flowmeter.Address.Ip
import Flowmeter.Address.Mac
import Flowmeter.Proofs.Text.Numeral

/-!
# Texts of addresses

A reader of addresses takes each number as long as there are digits, so what
matters is what stands between the numbers. A dotted form is tried before a
group and never found in one, since no dot follows a group. Where a text leaves
out zero groups, the groups before and after it are those around a run of
zeros, and the reader puts back as many as are missing.
-/

namespace Flowmeter

open Text

theorem Octets.ofList?_toList {n : Nat} (o : Octets n) : ofList? n o.toList = some o :=
  dif_pos o.length_eq

theorem Octets.map_ofNat_toNat (bs : List UInt8) : (bs.map UInt8.toNat).map UInt8.ofNat = bs := by
  rw [List.map_map]
  exact (List.map_congr_left fun b _ => UInt8.ofNat_toNat).trans (List.map_id bs)

/-- A list of results, if there is one for each item. -/
theorem mapM_map_eq_some {α β γ : Type} {f : β → Option γ} {g : α → β} {h : α → γ} {xs : List α}
    (heach : ∀ x ∈ xs, f (g x) = some (h x)) : (xs.map g).mapM f = some (xs.map h) := by
  induction xs with
  | nil => rfl
  | cons x xs ih =>
    obtain ⟨hx, hxs⟩ := List.forall_mem_cons.1 heach
    simp [hx, ih hxs]

/-- What comes behind a guard that holds. -/
theorem guard_bind {α : Type} {p : Prop} [Decidable p] (h : p) (next : Unit → Option α) :
    (guard p >>= next) = next () := by
  have hguard : (guard p : Option Unit) = some () := if_pos h
  rw [hguard]
  rfl

/-! ## Hardware addresses -/

theorem Mac.ofChars?_chars (mac : Mac) : ofChars? mac.chars = some mac := by
  have hne : mac.octets.toList.map (fun b => paddedHex 2 b.toNat) ≠ [] := by
    rw [← List.length_pos_iff, List.length_map, mac.octets.length_eq]
    decide
  have hcolon : ∀ piece ∈ mac.octets.toList.map (fun b => paddedHex 2 b.toNat), ':' ∉ piece := by
    intro piece hpiece hmem
    obtain ⟨b, -, rfl⟩ := List.mem_map.1 hpiece
    have hdigit := isSome_digit?_of_mem_paddedHex hmem
    cases hdigit
  have hparts : (mac.octets.toList.map (fun b => paddedHex 2 b.toNat)).mapM (unsigned? 16 256)
      = some (mac.octets.toList.map UInt8.toNat) :=
    mapM_map_eq_some fun b _ => unsigned?_paddedHex b.toNat_lt
  rw [ofChars?, chars, splitAt_intercalate hne hcolon, hparts]
  simp only [Option.bind_eq_bind, Option.bind_some, Octets.map_ofNat_toNat,
    Octets.ofList?_toList]
  rfl

/-! ## Version 4 -/

/-- The items of a list with a separator between them, seen from the first. -/
theorem Text.intercalate_cons (separator : Char) (piece : List Char) (pieces : List (List Char)) :
    [separator].intercalate (piece :: pieces)
      = piece ++ pieces.flatMap fun piece => separator :: piece := by
  induction pieces generalizing piece with
  | nil => simp
  | cons next pieces ih =>
    rw [List.intercalate_cons_cons, ih, List.flatMap_cons]
    simp

namespace Ipv4

theorem readPart?_digits (b : UInt8) {rest : List Char} (hrest : StopsAt Char.isDigit rest) :
    readPart? (digits 10 b.toNat ++ rest) = some (b, rest) := by
  have hdigits : ∀ c ∈ digits 10 b.toNat, c.isDigit = true := fun c hc => isDigit_of_mem_digits hc
  have hshape : (digits 10 b.toNat).length ≤ 3 ∧
      ((digits 10 b.toNat).head? = some '0' → (digits 10 b.toNat).length = 1) :=
    ⟨(Nat.length_toDigits_le_iff (by decide) (by decide)).2 (Nat.lt_trans b.toNat_lt (by decide)),
      length_of_head?_zero (by decide)⟩
  have hlt : b.toNat < 256 := b.toNat_lt
  rw [readPart?, hrest.takeWhile_append hdigits, hrest.dropWhile_append hdigits, guard_bind hshape,
    digits?_digits (by decide) (by decide), Option.bind_eq_bind, Option.bind_some, guard_bind hlt,
    UInt8.ofNat_toNat]
  rfl

theorem readParts?_digits (bs : List UInt8) {rest : List Char} (hrest : StopsAt Char.isDigit rest) :
    readParts? bs.length ((bs.flatMap fun b => '.' :: digits 10 b.toNat) ++ rest)
      = some (bs, rest) := by
  induction bs with
  | nil => rfl
  | cons b bs ih =>
    have hnext : StopsAt Char.isDigit
        ((bs.flatMap fun b => '.' :: digits 10 b.toNat) ++ rest) := by
      cases bs with
      | nil => exact hrest
      | cons b bs => exact .cons rfl
    rw [List.flatMap_cons, List.append_assoc, List.cons_append, List.length_cons, readParts?,
      readPart?_digits b hnext]
    simp [ih]

/-- A dotted form is read to its end. -/
theorem read?_chars (addr : Ipv4) {rest : List Char} (hrest : StopsAt Char.isDigit rest) :
    read? (addr.chars ++ rest) = some (addr, rest) := by
  have hlength := addr.octets.length_eq
  have hall := Octets.ofList?_toList addr.octets
  cases hoctets : addr.octets.toList with
  | nil =>
    rw [hoctets] at hlength
    cases hlength
  | cons b bs =>
    rw [hoctets] at hlength hall
    have hthree : bs.length = 3 := Nat.succ.inj hlength
    have hnext : StopsAt Char.isDigit
        ((bs.flatMap fun b => '.' :: digits 10 b.toNat) ++ rest) := by
      cases bs with
      | nil => cases hthree
      | cons b bs => exact .cons rfl
    have hparts := readParts?_digits bs hrest
    rw [hthree] at hparts
    rw [chars, hoctets, List.map_cons, Text.intercalate_cons, List.flatMap_map, List.append_assoc,
      read?, readPart?_digits b hnext]
    simp [hparts, hall]

theorem read?_whole (addr : Ipv4) : read? addr.chars = some (addr, []) := by
  have hread := addr.read?_chars StopsAt.nil
  rwa [List.append_nil] at hread

/-- No dotted form is read where no dot follows the first digits. -/
theorem read?_eq_none {cs : List Char} (h : StopsAt (· == '.') (cs.dropWhile Char.isDigit)) :
    read? cs = none := by
  rw [read?]
  cases hpart : readPart? cs with
  | none => rfl
  | some result =>
    obtain ⟨part, rest⟩ := result
    have hrest : rest = cs.dropWhile Char.isDigit := by
      obtain ⟨-, -, hpart⟩ := Option.bind_eq_some_iff.1 hpart
      obtain ⟨n, -, hpart⟩ := Option.bind_eq_some_iff.1 hpart
      obtain ⟨-, -, hresult⟩ := Option.bind_eq_some_iff.1 hpart
      exact (Prod.mk.inj (Option.some.inj hresult)).2.symm
    have hparts : readParts? 3 rest = none := by
      rw [← hrest] at h
      unfold readParts?
      split
      · next hthree => cases hthree
      · have hdot := h _ rfl
        cases hdot
      · rfl
    simp only [Option.bind_eq_bind, Option.bind_some, hparts]
    rfl

end Ipv4

/-! ## Groups of version 6 -/

namespace Ipv6

/-- Nothing follows, or a colon. -/
def IsBreak (rest : List Char) : Prop := ∀ c ∈ rest.head?, c = ':'

theorem IsBreak.nil : IsBreak [] := by
  intro c hc
  cases hc

theorem IsBreak.colon (rest : List Char) : IsBreak (':' :: rest) := by
  intro c hc
  exact (Option.some.inj hc).symm

theorem IsBreak.stopsAt {rest : List Char} (h : IsBreak rest) {p : Char → Bool}
    (hp : p ':' = false) : StopsAt p rest := by
  intro c hc
  rw [h c hc]
  exact hp

theorem readGroup?_digits {g : Nat} (hg : g < 0x10000) {rest : List Char} (hrest : IsBreak rest) :
    readGroup? (digits 16 g ++ rest) = some (g, rest) := by
  have hdigits : ∀ c ∈ digits 16 g, isHexDigit c = true := fun c hc =>
    isSome_digit?_of_mem_digits (by decide) (by decide) hc
  have hlength : (digits 16 g).length ≤ 4 :=
    (Nat.length_toDigits_le_iff (by decide) (by decide)).2 hg
  have hstops : StopsAt isHexDigit rest := hrest.stopsAt rfl
  rw [readGroup?, hstops.takeWhile_append hdigits, hstops.dropWhile_append hdigits,
    guard_bind hlength, digits?_digits (by decide) (by decide), Option.bind_eq_bind,
    Option.bind_some]
  rfl

theorem readGroup?_eq_none {cs : List Char} (hstops : StopsAt isHexDigit cs) :
    readGroup? cs = none := by
  have hnone : cs.takeWhile isHexDigit = [] := hstops.takeWhile_nil
  rw [readGroup?, hnone]
  rfl

/-- A dotted form is not read where a group is, as no dot comes before the next colon. -/
theorem read?_digits (g : Nat) {rest : List Char} (hrest : IsBreak rest) :
    Ipv4.read? (digits 16 g ++ rest) = none := by
  apply Ipv4.read?_eq_none
  have hdot : ∀ c ∈ digits 16 g, (c == '.') = false := by
    intro c hc
    apply beq_eq_false_iff_ne.2
    rintro rfl
    have hdigit := isSome_digit?_of_mem_digits (by decide) (by decide) hc
    cases hdigit
  rw [List.dropWhile_append]
  split
  · next hnone =>
    rw [(hrest.stopsAt rfl).dropWhile_self]
    exact hrest.stopsAt rfl
  · intro c hc
    apply hdot
    have hmem : c ∈ (digits 16 g).dropWhile Char.isDigit := by
      cases hdrop : (digits 16 g).dropWhile Char.isDigit with
      | nil => simp [hdrop] at *
      | cons first later =>
        rw [hdrop] at hc
        obtain rfl := Option.some.inj hc
        exact List.mem_cons_self
    exact (List.dropWhile_sublist _).subset hmem

theorem read?_break {rest : List Char} (hrest : IsBreak rest) : Ipv4.read? rest = none := by
  apply Ipv4.read?_eq_none
  rw [(hrest.stopsAt rfl).dropWhile_self]
  exact hrest.stopsAt rfl

/-- Groups, each behind a colon. -/
def separated (gs : List Nat) : List Char := gs.flatMap fun g => ':' :: digits 16 g

theorem groupChars_cons (g : Nat) (gs : List Nat) :
    groupChars (g :: gs) = digits 16 g ++ separated gs := by
  rw [groupChars, List.map_cons, Text.intercalate_cons, List.flatMap_map]
  rfl

theorem isBreak_separated (gs : List Nat) {rest : List Char} (hrest : IsBreak rest) :
    IsBreak (separated gs ++ rest) := by
  cases gs with
  | nil => exact hrest
  | cons g gs => exact .colon _

/-- A group is read, and then what comes behind it. -/
theorem readGroups_digits {g : Nat} (hg : g < 0x10000) {room : Nat} {first : Bool}
    {cs rest : List Char} (hcs : afterSeparator? first cs = some (digits 16 g ++ rest))
    (hrest : IsBreak rest) :
    readGroups (room + 1) first cs
      = (g :: (readGroups room false rest).1, (readGroups room false rest).2) := by
  rw [readGroups]
  simp only [hcs, Option.bind_some, read?_digits g hrest, ite_self, readGroup?_digits hg hrest]

/-- No group is read where there is none, or none behind a colon. -/
theorem readGroups_stops {room : Nat} {first : Bool} {cs : List Char}
    (hcs : ∀ cs', afterSeparator? first cs = some cs' → IsBreak cs') :
    readGroups room first cs = ([], false, cs) := by
  cases room with
  | zero => rfl
  | succ room =>
    rw [readGroups]
    cases hseparator : afterSeparator? first cs with
    | none => simp
    | some cs' =>
      have hbreak := hcs cs' hseparator
      simp [read?_break hbreak, readGroup?_eq_none (hbreak.stopsAt (p := isHexDigit) rfl)]

/-- The groups end here: nothing follows, or two colons. -/
structure Ends (rest : List Char) : Prop where
  isBreak : IsBreak rest
  after : ∀ cs, afterSeparator? false rest = some cs → IsBreak cs

theorem Ends.nil : Ends [] := by
  refine ⟨.nil, ?_⟩
  intro cs hcs
  cases hcs

theorem Ends.colons (rest : List Char) : Ends (':' :: ':' :: rest) := by
  refine ⟨.colon _, ?_⟩
  intro cs hcs
  obtain rfl := Option.some.inj hcs
  exact .colon _

section Reading

variable {gs : List Nat} {room : Nat} {rest : List Char}

theorem readGroups_separated (hgs : ∀ g ∈ gs, g < 0x10000) (hroom : gs.length ≤ room)
    (hrest : Ends rest) : readGroups room false (separated gs ++ rest) = (gs, false, rest) := by
  induction gs generalizing room with
  | nil => exact readGroups_stops hrest.after
  | cons g gs ih =>
    obtain ⟨hg, hgs⟩ := List.forall_mem_cons.1 hgs
    obtain ⟨room, rfl⟩ := Nat.exists_eq_add_one.2 (Nat.lt_of_lt_of_le (Nat.succ_pos _) hroom)
    have hcs : afterSeparator? false (separated (g :: gs) ++ rest)
        = some (digits 16 g ++ (separated gs ++ rest)) := by
      simp [separated, afterSeparator?]
    rw [readGroups_digits hg hcs (isBreak_separated gs hrest.isBreak),
      ih hgs (Nat.le_of_succ_le_succ hroom)]

/-- Groups are read up to where they end. -/
theorem readGroups_groupChars (hgs : ∀ g ∈ gs, g < 0x10000) (hroom : gs.length ≤ room)
    (hrest : Ends rest) : readGroups room true (groupChars gs ++ rest) = (gs, false, rest) := by
  cases gs with
  | nil =>
    refine readGroups_stops fun cs hcs => ?_
    obtain rfl := Option.some.inj hcs
    exact hrest.isBreak
  | cons g gs =>
    obtain ⟨hg, hgs⟩ := List.forall_mem_cons.1 hgs
    obtain ⟨room, rfl⟩ := Nat.exists_eq_add_one.2 (Nat.lt_of_lt_of_le (Nat.succ_pos _) hroom)
    have hcs : afterSeparator? true (groupChars (g :: gs) ++ rest)
        = some (digits 16 g ++ (separated gs ++ rest)) := by
      rw [groupChars_cons, List.append_assoc]
      rfl
    rw [readGroups_digits hg hcs (isBreak_separated gs hrest.isBreak),
      readGroups_separated hgs (Nat.le_of_succ_le_succ hroom) hrest]

theorem readGroups_whole (hgs : ∀ g ∈ gs, g < 0x10000) (hroom : gs.length ≤ room) :
    readGroups room true (groupChars gs) = (gs, false, []) := by
  have hread := readGroups_groupChars hgs hroom .nil
  rwa [List.append_nil] at hread

/-- A dotted form at the end stands for two groups. -/
theorem readGroups_dotted (inner : Ipv4) :
    readGroups (room + 2) false (':' :: inner.chars) = (pairs inner.octets.toList, true, []) := by
  rw [readGroups]
  simp [afterSeparator?, inner.read?_whole]

end Reading

/-- No text of groups is a dotted form. -/
theorem read?_groupChars (gs : List Nat) {rest : List Char} (hrest : IsBreak rest) :
    Ipv4.read? (groupChars gs ++ rest) = none := by
  cases gs with
  | nil => exact read?_break hrest
  | cons g gs =>
    rw [groupChars_cons, List.append_assoc]
    exact read?_digits g (isBreak_separated gs hrest)

/-! ## Octets and groups -/

theorem pairs_lt {bs : List UInt8} {g : Nat} (hg : g ∈ pairs bs) : g < 0x10000 := by
  fun_induction pairs bs with
  | case1 hi lo rest ih =>
    rcases List.mem_cons.1 hg with rfl | hg
    · have hhi := hi.toNat_lt
      have hlo := lo.toNat_lt
      omega
    · exact ih hg
  | case2 => cases hg

theorem flatMap_pairs {bs : List UInt8} (heven : bs.length % 2 = 0) :
    ((pairs bs).flatMap fun g => [UInt8.ofNat (g / 256), UInt8.ofNat (g % 256)]) = bs := by
  fun_induction pairs bs with
  | case1 hi lo rest ih =>
    have hhigh : (hi.toNat * 256 + lo.toNat) / 256 = hi.toNat := by
      have hlo := lo.toNat_lt
      omega
    have hlow : (hi.toNat * 256 + lo.toNat) % 256 = lo.toNat := by
      have hlo := lo.toNat_lt
      omega
    have hrest : rest.length % 2 = 0 := by
      simp only [List.length_cons] at heven
      omega
    rw [List.flatMap_cons, ih hrest, hhigh, hlow, UInt8.ofNat_toNat, UInt8.ofNat_toNat]
    rfl
  | case2 bs hshort =>
    match bs with
    | [] => rfl
    | [b] => cases heven
    | hi :: lo :: rest => exact absurd rfl (hshort hi lo rest)

theorem length_pairs (bs : List UInt8) : (pairs bs).length = bs.length / 2 := by
  fun_induction pairs bs with
  | case1 hi lo rest ih =>
    simp only [List.length_cons, ih]
    omega
  | case2 bs hshort =>
    match bs with
    | [] => rfl
    | [b] => simp
    | hi :: lo :: rest => exact absurd rfl (hshort hi lo rest)

theorem length_groups (addr : Ipv6) : addr.groups.length = 8 := by
  rw [groups, length_pairs, addr.octets.length_eq]

theorem ofGroups?_groups (addr : Ipv6) : ofGroups? addr.groups = some addr := by
  have heven : addr.octets.toList.length % 2 = 0 := by rw [addr.octets.length_eq]
  simp [ofGroups?, groups, flatMap_pairs heven, Octets.ofList?_toList]

theorem eq_mapped_of_embedded?_eq_some {addr : Ipv6} {inner : Ipv4}
    (h : addr.embedded? = some inner) : addr = inner.mapped := by
  unfold embedded? at h
  split at h
  · next hmark =>
    obtain rfl := Option.some.inj h
    have hoctets : addr.octets = (Ipv4.mapped ⟨⟨addr.octets.toList.drop 12, by
        simp [addr.octets.length_eq]⟩⟩).octets := by
      apply Octets.ext
      change addr.octets.toList = mappedOctets ++ addr.octets.toList.drop 12
      rw [← hmark, List.take_append_drop]
    exact congrArg Ipv6.mk hoctets
  · cases h

/-! ## Runs of zero groups -/

theorem longestZeros_le (gs : List Nat) : (longestZeros gs).2 ≤ zerosAt gs (longestZeros gs).1 := by
  unfold longestZeros
  refine List.foldlRecOn (motive := fun best : Nat × Nat => best.2 ≤ zerosAt gs best.1)
    _ _ (Nat.zero_le _) ?_
  intro best hbest i hi
  split
  · exact Nat.le_refl _
  · exact hbest

/-- Groups that are left out are zeros. -/
theorem eq_append_zeros {gs : List Nat} {start length : Nat} (hrun : length ≤ zerosAt gs start) :
    gs = gs.take start ++ List.replicate length 0 ++ gs.drop (start + length) := by
  have hzeros : (gs.drop start).take length = List.replicate length 0 := by
    have hprefix : (gs.drop start).take length
        = ((gs.drop start).takeWhile (· == 0)).take length := by
      conv => lhs; rw [← List.takeWhile_append_dropWhile (p := (· == 0)) (l := gs.drop start)]
      exact List.take_append_of_le_length hrun
    rw [List.eq_replicate_iff, hprefix]
    refine ⟨List.length_take_of_le hrun, fun g hg => ?_⟩
    exact eq_of_beq (List.all_eq_true.1 List.all_takeWhile g (List.mem_of_mem_take hg))
  rw [← hzeros, ← List.drop_drop, List.append_assoc, List.take_append_drop,
    List.take_append_drop]

/-! ## Texts -/

/-- A text that leaves out a run of zero groups. -/
theorem ofChars?_compressed {head tail gs : List Nat} {zeros : Nat}
    (hgs : gs = head ++ List.replicate zeros 0 ++ tail) (hlength : gs.length = 8)
    (hlt : ∀ g ∈ gs, g < 0x10000) (hzeros : 1 < zeros) :
    ofChars? (groupChars head ++ [':', ':'] ++ groupChars tail) = ofGroups? gs := by
  have hparts : head.length + zeros + tail.length = 8 := by
    rw [← hlength, hgs]
    simp only [List.length_append, List.length_replicate]
  have hhead : readGroups 8 true (groupChars head ++ ':' :: ':' :: groupChars tail)
      = (head, false, ':' :: ':' :: groupChars tail) :=
    readGroups_groupChars (fun g hg => hlt g (by simp [hgs, hg])) (by omega) (.colons _)
  have htail : readGroups (7 - head.length) true (groupChars tail) = (tail, false, []) :=
    readGroups_whole (fun g hg => hlt g (by simp [hgs, hg])) (by omega)
  have hfew : head.length ≠ 8 := by omega
  have hmissing : 8 - head.length - tail.length = zeros := by omega
  rw [List.append_assoc, ofChars?]
  simp only [List.cons_append, List.nil_append, hhead, htail, if_neg hfew, hmissing, ← hgs]
  rfl

/-- A text of all groups. -/
theorem ofChars?_groupChars {gs : List Nat} (hlength : gs.length = 8)
    (hlt : ∀ g ∈ gs, g < 0x10000) : ofChars? (groupChars gs) = ofGroups? gs := by
  rw [ofChars?, readGroups_whole hlt (Nat.le_of_eq hlength)]
  simp only [hlength, if_true]

/-- A text that ends with an embedded address. -/
theorem ofChars?_mapped (inner : Ipv4) :
    ofChars? ([':', ':', 'f', 'f', 'f', 'f', ':'] ++ inner.chars) = some inner.mapped := by
  have hhead : ∀ cs, readGroups 8 true (':' :: ':' :: cs) = ([], false, ':' :: ':' :: cs) :=
    fun cs => @readGroups_groupChars [] 8 _ (List.forall_mem_nil _) (Nat.zero_le 8) (.colons cs)
  have htail : readGroups 7 true (['f', 'f', 'f', 'f'] ++ ':' :: inner.chars)
      = (0xffff :: pairs inner.octets.toList, true, []) := by
    rw [readGroups_digits (by decide : 0xffff < 0x10000) rfl (.colon _), readGroups_dotted]
  have hlength : (pairs inner.octets.toList).length = 2 := by
    rw [length_pairs, inner.octets.length_eq]
  have hgroups : List.replicate 5 0 ++ 0xffff :: pairs inner.octets.toList
      = inner.mapped.groups := rfl
  simp only [List.cons_append, List.nil_append] at htail
  rw [ofChars?]
  simp only [List.cons_append, List.nil_append, hhead, htail, List.length_nil, List.length_cons,
    hlength]
  exact (congrArg ofGroups? hgroups).trans (ofGroups?_groups _)

/-- The text of an address, whichever of the three forms it takes. -/
theorem ofChars?_chars (addr : Ipv6) : ofChars? addr.chars = some addr := by
  have hlt : ∀ g ∈ addr.groups, g < 0x10000 := fun g hg => pairs_lt hg
  unfold chars
  split
  · next inner hinner =>
    rw [ofChars?_mapped, eq_mapped_of_embedded?_eq_some hinner]
  · dsimp only
    split
    · next hlong =>
      have hgroups := eq_append_zeros (longestZeros_le addr.groups)
      rw [ofChars?_compressed hgroups (length_groups addr) hlt hlong, ofGroups?_groups]
    · rw [ofChars?_groupChars (length_groups addr) hlt, ofGroups?_groups]

theorem read?_chars (addr : Ipv6) : Ipv4.read? addr.chars = none := by
  unfold chars
  split
  · exact read?_break (.colon _)
  · dsimp only
    split
    · rw [List.append_assoc]
      exact read?_groupChars _ (.colon _)
    · have hread := read?_groupChars addr.groups IsBreak.nil
      rwa [List.append_nil] at hread

end Ipv6

/-- An address is read from its text as an address of its own version. -/
theorem IpAddr.ofChars?_chars (ip : IpAddr) : ofChars? ip.chars = some ip := by
  cases ip with
  | v4 addr =>
    rw [ofChars?, chars, addr.read?_whole]
  | v6 addr =>
    rw [ofChars?, chars, addr.read?_chars, addr.ofChars?_chars]
    rfl

end Flowmeter
