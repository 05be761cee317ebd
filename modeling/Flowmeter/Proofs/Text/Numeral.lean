-- SUMMARY: Numerals that were written are read as the numbers they were written for, and lists of texts are split where they were joined.
import Flowmeter.Text.Blank
import Flowmeter.Text.Numeral

/-!
# Numerals, written and read

The digits of a number lead back to it, in base ten and in base sixteen, and
zeros in front make no difference. A reader that takes digits as long as there
are any finds the end of a numeral as long as what follows is no digit.
-/

namespace Flowmeter.Text

/-! ## The front of a text -/

/-- What follows does not begin with a character of this kind. -/
def StopsAt (p : Char → Bool) (rest : List Char) : Prop := ∀ c ∈ rest.head?, p c = false

namespace StopsAt

variable {p : Char → Bool} {cs rest : List Char} {c : Char}

theorem nil : StopsAt p [] := by
  intro c hc
  cases hc

theorem cons (h : p c = false) : StopsAt p (c :: rest) := by
  intro c' hc'
  obtain rfl := Option.some.inj hc'
  exact h

theorem takeWhile_append (h : StopsAt p rest) (hcs : ∀ c ∈ cs, p c = true) :
    (cs ++ rest).takeWhile p = cs := by
  rw [List.takeWhile_append_of_pos hcs]
  cases rest with
  | nil => exact List.append_nil cs
  | cons c rest => rw [List.takeWhile_cons_of_neg (by simp [h c rfl]), List.append_nil]

theorem dropWhile_append (h : StopsAt p rest) (hcs : ∀ c ∈ cs, p c = true) :
    (cs ++ rest).dropWhile p = rest := by
  rw [List.dropWhile_append_of_pos hcs]
  cases rest with
  | nil => rfl
  | cons c rest => exact List.dropWhile_cons_of_neg (by simp [h c rfl])

theorem takeWhile_nil (h : StopsAt p rest) : rest.takeWhile p = [] :=
  @takeWhile_append p [] rest h (List.forall_mem_nil _)

theorem dropWhile_self (h : StopsAt p rest) : rest.dropWhile p = rest :=
  @dropWhile_append p [] rest h (List.forall_mem_nil _)

end StopsAt

/-! ## Digits -/

variable {base : Nat}

theorem digit?_digitChar {d : Nat} (hbase : base ≤ 16) (hd : d < base) :
    digit? base (Nat.digitChar d) = some d := by
  have hvalue : digit? base (Nat.digitChar d) = if d < base then some d else none := by
    match d, Nat.lt_of_lt_of_le hd hbase with
    | 0, _ | 1, _ | 2, _ | 3, _ | 4, _ | 5, _ | 6, _ | 7, _ | 8, _ | 9, _ | 10, _ | 11, _
    | 12, _ | 13, _ | 14, _ | 15, _ => rfl
    | d + 16, h => omega
  rw [hvalue, if_pos hd]

theorem digitsFrom?_append (cs cs' : List Char) (acc : Nat) :
    digitsFrom? base acc (cs ++ cs')
      = (digitsFrom? base acc cs).bind fun n => digitsFrom? base n cs' := by
  induction cs generalizing acc with
  | nil => rfl
  | cons c cs ih =>
    simp only [List.cons_append, digitsFrom?]
    cases digit? base c with
    | none => rfl
    | some d => exact ih _

theorem digitsFrom?_digits (hone : 1 < base) (hbase : base ≤ 16) (n : Nat) :
    digitsFrom? base 0 (digits base n) = some n := by
  induction n using Nat.base_induction base hone with
  | single d hd =>
    rw [digits, Nat.toDigits_of_lt_base hd]
    simp [digitsFrom?, digit?_digitChar hbase hd]
  | digit n d hd hpos ih =>
    rw [digits, ← Nat.toDigits_append_toDigits hone hpos hd, digitsFrom?_append, ← digits, ih,
      Nat.toDigits_of_lt_base hd]
    simp [digitsFrom?, digit?_digitChar hbase hd, Nat.mul_comm]

/-- A numeral with zeros in front. -/
theorem digits?_padded (hone : 1 < base) (hbase : base ≤ 16) (zeros n : Nat) :
    digits? base (List.replicate zeros '0' ++ digits base n) = some n := by
  have hread : digitsFrom? base 0 (List.replicate zeros '0' ++ digits base n) = some n := by
    induction zeros with
    | zero => exact digitsFrom?_digits hone hbase n
    | succ zeros ih =>
      have hzero : digit? base '0' = some 0 :=
        digit?_digitChar hbase (Nat.lt_trans Nat.zero_lt_one hone)
      rw [List.replicate_succ, List.cons_append, digitsFrom?, hzero]
      simpa using ih
  unfold digits?
  split
  · next hnil => exact absurd (List.append_eq_nil_iff.1 hnil).2 Nat.toDigits_ne_nil
  · exact hread

theorem digits?_digits (hone : 1 < base) (hbase : base ≤ 16) (n : Nat) :
    digits? base (digits base n) = some n :=
  digits?_padded hone hbase 0 n

theorem exists_digit_of_mem_digits (hone : 1 < base) {n : Nat} {c : Char}
    (hc : c ∈ digits base n) : ∃ d, d < base ∧ c = Nat.digitChar d := by
  induction n using Nat.base_induction base hone with
  | single d hd =>
    rw [digits, Nat.toDigits_of_lt_base hd] at hc
    exact ⟨d, hd, List.mem_singleton.1 hc⟩
  | digit n d hd hpos ih =>
    rw [digits, ← Nat.toDigits_append_toDigits hone hpos hd, Nat.toDigits_of_lt_base hd] at hc
    rcases List.mem_append.1 hc with hc | hc
    · exact ih hc
    · exact ⟨d, hd, List.mem_singleton.1 hc⟩

theorem isSome_digit?_of_mem_digits (hone : 1 < base) (hbase : base ≤ 16) {n : Nat} {c : Char}
    (hc : c ∈ digits base n) : (digit? base c).isSome = true := by
  obtain ⟨d, hd, rfl⟩ := exists_digit_of_mem_digits hone hc
  rw [digit?_digitChar hbase hd]
  rfl

theorem isDigit_of_mem_digits {n : Nat} {c : Char} (hc : c ∈ digits 10 n) : c.isDigit = true :=
  Nat.isDigit_of_mem_toDigits (by decide) (by decide) hc

/-- Only the numeral of zero starts with a zero, and that is its only digit. -/
theorem length_of_head?_zero (hone : 1 < base) {n : Nat}
    (hzero : (digits base n).head? = some '0') : (digits base n).length = 1 := by
  have hlength : ∀ d, d < base → (digits base d).length = 1 := fun d hd => by
    rw [digits, Nat.toDigits_of_lt_base hd]
    rfl
  have hn : n = 0 := by
    induction n using Nat.base_induction base hone with
    | single d hd =>
      rw [digits, Nat.toDigits_of_lt_base hd] at hzero
      exact Nat.digitChar_eq_zero.1 (Option.some.inj hzero)
    | digit n d hd hpos ih =>
      rw [digits, ← Nat.toDigits_append_toDigits hone hpos hd, List.head?_append] at hzero
      refine absurd (ih ?_) (Nat.pos_iff_ne_zero.1 hpos)
      cases hdigits : Nat.toDigits base n with
      | nil => exact absurd hdigits Nat.toDigits_ne_nil
      | cons c cs =>
        rw [hdigits, List.head?_cons, Option.some_or] at hzero
        rw [digits, hdigits]
        exact hzero
  rw [hn]
  exact hlength 0 (Nat.lt_trans Nat.zero_lt_one hone)

/-! ## Octets in hexadecimal -/

theorem isSome_digit?_of_mem_paddedHex {width n : Nat} {c : Char} (hc : c ∈ paddedHex width n) :
    (digit? 16 c).isSome = true := by
  rcases List.mem_append.1 hc with hc | hc
  · obtain rfl := List.eq_of_mem_replicate hc
    rfl
  · exact isSome_digit?_of_mem_digits (by decide) (by decide) hc

theorem unsigned?_paddedHex {width limit n : Nat} (hn : n < limit) :
    unsigned? 16 limit (paddedHex width n) = some n := by
  have hread : digits? 16 (paddedHex width n) = some n :=
    digits?_padded (by decide) (by decide) _ n
  unfold unsigned?
  split
  · next cs hplus =>
    have hdigit := isSome_digit?_of_mem_paddedHex (hplus ▸ List.mem_cons_self : '+' ∈ _)
    cases hdigit
  · simp [hread, hn]

/-! ## Lists of texts -/

theorem splitAt_of_not_mem {separator : Char} {piece : List Char} (h : separator ∉ piece) :
    splitAt separator piece = [piece] := by
  induction piece with
  | nil => rfl
  | cons c piece ih =>
    rw [List.mem_cons, not_or] at h
    rw [splitAt, if_neg (Ne.symm h.1), ih h.2]

theorem splitAt_append {separator : Char} {piece : List Char} (h : separator ∉ piece)
    (cs : List Char) :
    splitAt separator (piece ++ separator :: cs) = piece :: splitAt separator cs := by
  induction piece with
  | nil => simp [splitAt]
  | cons c piece ih =>
    rw [List.mem_cons, not_or] at h
    rw [List.cons_append, splitAt, if_neg (Ne.symm h.1), ih h.2]

theorem splitAt_intercalate {separator : Char} {pieces : List (List Char)} (hne : pieces ≠ [])
    (h : ∀ piece ∈ pieces, separator ∉ piece) :
    splitAt separator ([separator].intercalate pieces) = pieces := by
  induction pieces with
  | nil => exact absurd rfl hne
  | cons piece pieces ih =>
    obtain ⟨hpiece, hpieces⟩ := List.forall_mem_cons.1 h
    cases pieces with
    | nil => rw [List.intercalate_singleton, splitAt_of_not_mem hpiece]
    | cons next pieces =>
      rw [List.intercalate_cons_cons, List.append_assoc, List.singleton_append,
        splitAt_append hpiece, ih (List.cons_ne_nil _ _) hpieces]

end Flowmeter.Text
