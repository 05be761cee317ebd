-- SUMMARY: The address selected is the first of its family, and with any family version 6 stands in for version 4.
import Flowmeter.Config

/-!
# Selection of an address

The addresses that qualify are sorted so that those of version 4 come to the
front, and the first one is taken. As the sort is stable and looks at the
version only, it parts the addresses in two and changes no order within the
parts. So with one family wanted it changes nothing, and with any family the
first address of version 4 is taken, or else the first one of version 6.
-/

namespace Flowmeter

/-! ## Sorting by a test -/

section StableSort

variable {α : Type} {p q : α → Bool} {l : List α}

/-- The order in which those that pass `p` come before those that fail it. -/
def firstThose (p : α → Bool) (a b : α) : Bool := p a || !p b

theorem firstThose_trans (a b c : α) (hab : firstThose p a b = true)
    (hbc : firstThose p b c = true) : firstThose p a c = true := by
  simp only [firstThose] at *
  cases ha : p a <;> cases hb : p b <;> simp_all

theorem firstThose_total (a b : α) : (firstThose p a b || firstThose p b a) = true := by
  simp only [firstThose]
  cases p a <;> cases p b <;> rfl

theorem firstThose_of_eq {a b : α} (h : p a = p b) : firstThose p a b = true := by
  rw [firstThose, h, Bool.or_not_self]

theorem eq_filter_append_of_pairwise (h : l.Pairwise (firstThose p · ·)) :
    l = l.filter p ++ l.filter (!p ·) := by
  induction l with
  | nil => rfl
  | cons a l ih =>
    obtain ⟨ha, hl⟩ := List.pairwise_cons.1 h
    cases hp : p a with
    | true => simpa [hp] using ih hl
    | false =>
      -- Nothing behind one that fails passes.
      have hnone : l.filter p = [] := by
        refine List.filter_eq_nil_iff.2 fun b hb hpb => ?_
        simpa [firstThose, hp, hpb] using ha b hb
      have hall : l.filter (!p ·) = l := by simpa [hnone] using (ih hl).symm
      simp [hp, hnone, hall]

/-- The sort moves no two elements past each other that `p` does not tell apart. -/
theorem filter_mergeSort_firstThose (hq : ∀ a b, q a = true → q b = true → p a = p b) :
    (l.mergeSort (firstThose p)).filter q = l.filter q := by
  have hsame : (l.filter q).Pairwise (firstThose p · ·) := by
    refine List.Pairwise.imp_of_mem (R := fun _ _ => True) ?_ (List.pairwise_of_forall (by simp))
    intro a b ha hb _
    exact firstThose_of_eq (hq a b (List.mem_filter.1 ha).2 (List.mem_filter.1 hb).2)
  have hkept : (l.filter q).Sublist (l.mergeSort (firstThose p)) :=
    List.sublist_mergeSort firstThose_trans firstThose_total hsame List.filter_sublist
  have hsub : (l.filter q).Sublist ((l.mergeSort (firstThose p)).filter q) := by
    simpa using hkept.filter q
  exact (hsub.eq_of_length ((List.mergeSort_perm l _).filter q).length_eq.symm).symm

theorem mergeSort_firstThose (p : α → Bool) (l : List α) :
    l.mergeSort (firstThose p) = l.filter p ++ l.filter (!p ·) := by
  have hsorted : (l.mergeSort (firstThose p)).Pairwise (firstThose p · ·) :=
    List.pairwise_mergeSort firstThose_trans firstThose_total l
  have hpass : (l.mergeSort (firstThose p)).filter p = l.filter p :=
    filter_mergeSort_firstThose fun a b ha hb => ha.trans hb.symm
  have hfail : (l.mergeSort (firstThose p)).filter (!p ·) = l.filter (!p ·) :=
    filter_mergeSort_firstThose fun a b ha hb => by simp_all
  calc l.mergeSort (firstThose p)
      = (l.mergeSort (firstThose p)).filter p ++ (l.mergeSort (firstThose p)).filter (!p ·) :=
        eq_filter_append_of_pairwise hsorted
    _ = l.filter p ++ l.filter (!p ·) := by rw [hpass, hfail]

end StableSort

/-! ## Who matches -/

/-- Which links an interface setting means. -/
def Iface.Matches : Iface → Link → Prop
  | .external, link => link.up = true ∧ link.loopback = false
  | .loopback, link => link.loopback = true
  | .named name, link => link.name = name

theorem Iface.admits_iff {iface : Iface} {link : Link} :
    iface.admits link = true ↔ iface.Matches link := by
  cases iface <;> simp [admits, Matches]

/-- Which addresses a family has. -/
def Family.Has : Family → IpAddr → Prop
  | .any, _ => True
  | .ipv4, ip => ∃ addr, ip = .v4 addr
  | .ipv6, ip => ∃ addr, ip = .v6 addr

theorem Family.admits_iff {family : Family} {ip : IpAddr} :
    family.admits ip = true ↔ family.Has ip := by
  cases family <;> cases ip <;>
    simp [admits, Has, IpAddr.isV4, IpAddr.isV6, IpAddr.version]

theorem IpAddr.isV6_eq_not_isV4 (ip : IpAddr) : ip.isV6 = !ip.isV4 := by
  cases ip <;> rfl

namespace Link

variable {links : List Link} {iface : Iface} {family : Family} {ip : IpAddr}

/-- No link that `iface` means has an address of the family. -/
def HasNone (links : List Link) (iface : Iface) (family : Family) : Prop :=
  ∀ link ∈ links, iface.Matches link → ∀ ip ∈ link.ips, ¬ family.Has ip

/-- `ip` is the first address of the family on the links that `iface` means, in the order
of the links and of the addresses on a link. -/
def IsFirst (links : List Link) (iface : Iface) (family : Family) (ip : IpAddr) : Prop :=
  ∃ before link after, links = before ++ link :: after ∧ HasNone before iface family ∧
    iface.Matches link ∧ ∃ earlier later, link.ips = earlier ++ ip :: later ∧
      (∀ ip' ∈ earlier, ¬ family.Has ip') ∧ family.Has ip

/-! ## Candidates -/

/-- The addresses that qualify on one link. -/
def offered (iface : Iface) (family : Family) (link : Link) : List IpAddr :=
  if iface.admits link then link.ips.filter family.admits else []

theorem candidates_eq_flatMap :
    candidates links iface family = links.flatMap (offered iface family) := by
  induction links with
  | nil => rfl
  | cons link links ih =>
    rw [List.flatMap_cons, ← ih, offered, candidates, candidates]
    cases hlink : iface.admits link <;> simp [hlink]

theorem head?_offered_eq_some_iff {link : Link} :
    (offered iface family link).head? = some ip ↔
      iface.Matches link ∧ ∃ earlier later, link.ips = earlier ++ ip :: later ∧
        (∀ ip' ∈ earlier, ¬ family.Has ip') ∧ family.Has ip := by
  rw [offered, ← Iface.admits_iff]
  cases iface.admits link with
  | false => simp
  | true =>
    simp only [if_true, List.head?_filter, List.find?_eq_some_iff_append, true_and]
    simp only [Bool.not_eq_true', ← Bool.not_eq_true, Family.admits_iff]
    constructor
    · rintro ⟨hip, earlier, later, hips, hearlier⟩
      exact ⟨earlier, later, hips, hearlier, hip⟩
    · rintro ⟨earlier, later, hips, hearlier, hip⟩
      exact ⟨hip, earlier, later, hips, hearlier⟩

theorem head?_offered_eq_none_iff {link : Link} :
    (offered iface family link).head? = none ↔
      (iface.Matches link → ∀ ip ∈ link.ips, ¬ family.Has ip) := by
  rw [offered, ← Iface.admits_iff]
  cases iface.admits link with
  | false => simp
  | true => simp [Family.admits_iff]

theorem head?_candidates_eq_some_iff :
    (candidates links iface family).head? = some ip ↔ IsFirst links iface family ip := by
  simp only [candidates_eq_flatMap, List.head?_flatMap, List.findSome?_eq_some_iff,
    head?_offered_eq_some_iff, head?_offered_eq_none_iff]
  rw [IsFirst]
  constructor
  · rintro ⟨before, link, after, hlinks, hfirst, hbefore⟩
    exact ⟨before, link, after, hlinks, hbefore, hfirst⟩
  · rintro ⟨before, link, after, hlinks, hbefore, hfirst⟩
    exact ⟨before, link, after, hlinks, hfirst, hbefore⟩

theorem head?_candidates_eq_none_iff :
    (candidates links iface family).head? = none ↔ HasNone links iface family := by
  simp only [candidates_eq_flatMap, List.head?_flatMap, List.findSome?_eq_none_iff,
    head?_offered_eq_none_iff]
  rfl

/-! ## Selection -/

theorem select?_eq_mergeSort : select? links iface family =
    ((candidates links iface family).mergeSort (firstThose IpAddr.isV4)).head? := by
  have hle : (fun a b : IpAddr => a.isV4 || b.isV6) = firstThose IpAddr.isV4 := by
    funext a b
    rw [firstThose, IpAddr.isV6_eq_not_isV4]
  rw [select?, hle]

/-- The sort finds the addresses of one family in order. -/
theorem select?_of_ne_any (h : family ≠ .any) :
    select? links iface family = (candidates links iface family).head? := by
  have hsame : ∀ a b, family.admits a = true → family.admits b = true → a.isV4 = b.isV4 := by
    intro a b
    cases family with
    | any => exact absurd rfl h
    | ipv4 => exact fun ha hb => ha.trans hb.symm
    | ipv6 =>
      simp only [Family.admits, IpAddr.isV6_eq_not_isV4]
      intro ha hb
      simp_all
  have hsorted : (candidates links iface family).Pairwise (firstThose IpAddr.isV4 · ·) := by
    refine List.pairwise_of_forall_mem_list fun a ha b hb => ?_
    exact firstThose_of_eq (hsame a b (List.mem_filter.1 ha).2 (List.mem_filter.1 hb).2)
  rw [select?_eq_mergeSort, List.mergeSort_of_pairwise hsorted]

theorem filter_candidates_any (family : Family) :
    (candidates links iface .any).filter family.admits = candidates links iface family := by
  rw [candidates, candidates, List.filter_filter]
  exact List.filter_congr fun ip _ => Bool.and_true (family.admits ip)

theorem select?_any :
    select? links iface .any = (select? links iface .ipv4).or (select? links iface .ipv6) := by
  have hipv4 : (candidates links iface .any).filter IpAddr.isV4 = candidates links iface .ipv4 :=
    filter_candidates_any .ipv4
  have hipv6 : (candidates links iface .any).filter (!IpAddr.isV4 ·)
      = candidates links iface .ipv6 := by
    simp only [← IpAddr.isV6_eq_not_isV4]
    exact filter_candidates_any .ipv6
  rw [select?_eq_mergeSort, mergeSort_firstThose, hipv4, hipv6, List.head?_append,
    select?_of_ne_any (by simp), select?_of_ne_any (by simp)]

theorem select_eq_ok_iff :
    select links iface family = .ok ip ↔ select? links iface family = some ip := by
  rw [select]
  cases select? links iface family <;> simp

theorem select_eq_error_iff {e : ConfigError} :
    select links iface family = .error e ↔
      e = .address family iface ∧ select? links iface family = none := by
  rw [select]
  cases select? links iface family <;> simp [eq_comm]

/-- With one family wanted, the first address of that family is selected, in the order of the
links that match and of their addresses, and selection fails just when they have none. With
any family, what version 4 gives is selected, or else what version 6 gives, and selection fails
just when both fail. -/
theorem select_takes_first (links : List Link) (iface : Iface) :
    (∀ ip, select links iface .ipv4 = .ok ip ↔ IsFirst links iface .ipv4 ip) ∧
    (∀ e, select links iface .ipv4 = .error e ↔
      e = .address .ipv4 iface ∧ HasNone links iface .ipv4) ∧
    (∀ ip, select links iface .ipv6 = .ok ip ↔ IsFirst links iface .ipv6 ip) ∧
    (∀ e, select links iface .ipv6 = .error e ↔
      e = .address .ipv6 iface ∧ HasNone links iface .ipv6) ∧
    (∀ ip, select links iface .any = .ok ip ↔
      select links iface .ipv4 = .ok ip ∨
        (∃ e, select links iface .ipv4 = .error e) ∧ select links iface .ipv6 = .ok ip) ∧
    (∀ e, select links iface .any = .error e ↔
      e = .address .any iface ∧ (∃ e, select links iface .ipv4 = .error e) ∧
        ∃ e, select links iface .ipv6 = .error e) := by
  refine ⟨fun ip => ?_, fun e => ?_, fun ip => ?_, fun e => ?_, fun ip => ?_, fun e => ?_⟩
  · rw [select_eq_ok_iff, select?_of_ne_any (by simp), head?_candidates_eq_some_iff]
  · rw [select_eq_error_iff, select?_of_ne_any (by simp), head?_candidates_eq_none_iff]
  · rw [select_eq_ok_iff, select?_of_ne_any (by simp), head?_candidates_eq_some_iff]
  · rw [select_eq_error_iff, select?_of_ne_any (by simp), head?_candidates_eq_none_iff]
  · simp [select_eq_ok_iff, select_eq_error_iff, select?_any, Option.or_eq_some_iff]
  · simp [select_eq_error_iff, select?_any, Option.or_eq_none_iff]

/-- A version 4 address comes first, though it is the last of the second link. -/
example (v4 : Ipv4) (v6 v6' : Ipv6) :
    select [⟨"lo", true, true, [.v4 v4]⟩, ⟨"eth0", true, false, [.v6 v6]⟩,
      ⟨"eth1", true, false, [.v6 v6', .v4 v4]⟩] .external .any = .ok (.v4 v4) := by
  cbv

end Link

end Flowmeter
