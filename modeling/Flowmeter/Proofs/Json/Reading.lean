-- SUMMARY: What the writer of JSON puts out is read as the value it was written for, to its end and no further.
import Flowmeter.Flow.RecordJson
import Flowmeter.Proofs.Address.RoundTrip

/-!
# Reading what was written

A text reads as a value when it does so in front of anything that may follow a
value, given fuel beyond its length. An object reads as its members since every
one of them is shorter than the object around it.
-/

namespace Flowmeter.Json

open Text

/-! ## Around a value -/

/-- What may follow a value of an object: nothing, a comma or a closing brace. -/
def Follows (rest : List Char) : Prop := ∀ c ∈ rest.head?, c = ',' ∨ c = '\x7d'

namespace Follows

theorem nil : Follows [] := by
  intro c hc
  cases hc

theorem comma (rest : List Char) : Follows (',' :: rest) := by
  intro c hc
  exact .inl (Option.some.inj hc).symm

theorem brace (rest : List Char) : Follows ('\x7d' :: rest) := by
  intro c hc
  exact .inr (Option.some.inj hc).symm

theorem stopsAt {rest : List Char} (h : Follows rest) {p : Char → Bool} (hcomma : p ',' = false)
    (hbrace : p '\x7d' = false) : StopsAt p rest := by
  intro c hc
  rcases h c hc with rfl | rfl
  · exact hcomma
  · exact hbrace

theorem skipSpace_eq {rest : List Char} (h : Follows rest) : skipSpace rest = rest :=
  (h.stopsAt rfl rfl).dropWhile_self

end Follows

theorem skipSpace_cons {c : Char} (hc : isSpace c = false) (cs : List Char) :
    skipSpace (c :: cs) = c :: cs :=
  (StopsAt.cons hc).dropWhile_self

/-- `cs` is read as `j`, and what follows it is left. -/
def Reads (cs : List Char) (j : Json) : Prop :=
  ∀ fuel rest, cs.length ≤ fuel → Follows rest →
    readValue? (fuel + 1) (cs ++ rest) = some (j, rest)

/-- A text that is read alone. -/
theorem Reads.ofChars?_eq {cs : List Char} {j : Json} (h : Reads cs j) : ofChars? cs = some j := by
  have hread := h (2 * cs.length) [] (by omega) .nil
  rw [List.append_nil] at hread
  rw [ofChars?, hread, Option.bind_eq_bind, Option.bind_some]
  exact if_pos Follows.nil.skipSpace_eq

/-! ## Literals and numbers -/

theorem reads_bool (b : Bool) :
    Reads (if b then "true".toList else "false".toList) (.bool b) := by
  intro fuel rest _ _
  cases b with
  | true => rfl
  | false => rfl

theorem readValue?_of_isDigit {c : Char} (hc : c.isDigit = true) (fuel : Nat) (cs : List Char) :
    readValue? (fuel + 1) (c :: cs) = readNumber? (c :: cs) := by
  have hspace : isSpace c = false := by
    rw [← Bool.not_eq_true]
    intro hspace
    simp only [isSpace, Bool.or_eq_true, decide_eq_true_eq] at hspace
    rcases hspace with ((rfl | rfl) | rfl) | rfl <;> cases hc
  rw [readValue?, skipSpace_cons hspace]
  split <;> first | rfl | next heq => cases heq; cases hc

theorem exists_digits_eq (n : Nat) : ∃ c ds, digits 10 n = c :: ds ∧ c.isDigit = true := by
  cases hds : digits 10 n with
  | nil => exact absurd hds Nat.toDigits_ne_nil
  | cons c ds => exact ⟨c, ds, rfl, isDigit_of_mem_digits (hds ▸ List.mem_cons_self)⟩

theorem readNumber?_digits (n : Nat) {rest : List Char} (hrest : Follows rest) :
    readNumber? (digits 10 n ++ rest) = some (.natural n, rest) := by
  have hdigits : ∀ c ∈ digits 10 n, c.isDigit = true := fun c hc => isDigit_of_mem_digits hc
  have hstops : StopsAt Char.isDigit rest := hrest.stopsAt rfl rfl
  obtain ⟨c, ds, hds, hc⟩ := exists_digits_eq n
  have hread : readDigits? (digits 10 n ++ rest) = some (digits 10 n, rest) := by
    rw [readDigits?, hstops.takeWhile_append hdigits, hstops.dropWhile_append hdigits, hds]
  have hwhole : readWhole? (digits 10 n ++ rest) = some (digits 10 n, rest) := by
    have hshape : ¬((digits 10 n).head? = some '0' ∧ (digits 10 n).length ≠ 1) :=
      fun h => h.2 (length_of_head?_zero (by decide) h.1)
    simp only [readWhole?, hread, Option.bind_eq_bind, Option.bind_some, if_neg hshape]
  have hfraction : afterFraction? rest = some rest := by
    unfold afterFraction?
    split
    · rcases hrest _ rfl with hcomma | hbrace
      · cases hcomma
      · cases hbrace
    · rfl
  have hexponent : afterExponent? rest = some rest := by
    cases rest with
    | nil => rfl
    | cons c rest =>
      rcases hrest c rfl with rfl | rfl
      · rfl
      · rfl
  unfold readNumber?
  split
  · next hminus =>
    rw [hds] at hminus
    cases hminus
    cases hc
  · simp [hwhole, hfraction, hexponent, digits?_digits]

theorem reads_natChars (n : Nat) : Reads (natChars n) (.natural n) := by
  intro fuel rest _ hrest
  obtain ⟨c, ds, hds, hc⟩ := exists_digits_eq n
  rw [← readNumber?_digits n hrest, natChars, hds]
  exact readValue?_of_isDigit hc fuel _

/-! ## Strings -/

/-- An escape of four digits is read as the control character it was written for. -/
theorem digits?_control {n : Nat} (hn : n < 0x20) :
    digits? 16 ['0', '0', Nat.digitChar (n / 16), Nat.digitChar (n % 16)] = some n := by
  have hzero : digit? 16 '0' = some 0 := rfl
  have hhigh := digit?_digitChar (Nat.le_refl 16) (by omega : n / 16 < 16)
  have hlow := digit?_digitChar (Nat.le_refl 16) (Nat.mod_lt n (by decide : 0 < 16))
  simp [digits?, digitsFrom?, hzero, hhigh, hlow, Nat.div_add_mod' n 16]

theorem readString?_escapeChar (seen : List Nat) (c : Char) (rest : List Char) :
    readString? seen (escapeChar c ++ rest) = readString? (c.toNat :: seen) rest := by
  unfold escapeChar
  -- Seven characters have an escape of one letter; the other controls have one of four digits.
  iterate 7
    split
    · next h => subst h; rfl
  split
  · next hcontrol => simp [readString?, digits?_control hcontrol]
  · next hbackslash _ _ _ _ _ hcontrol => simp [readString?, hbackslash, hcontrol]

theorem readString?_quoted (seen : List Nat) (cs rest : List Char) :
    readString? seen (cs.flatMap escapeChar ++ '"' :: rest)
      = some (seen.reverse ++ cs.map Char.toNat, rest) := by
  induction cs generalizing seen with
  | nil => simp [readString?]
  | cons c cs ih =>
    rw [List.flatMap_cons, List.append_assoc, readString?_escapeChar, ih]
    simp

/-- No character is half of a surrogate pair. -/
theorem textOfUnits_map_toNat (cs : List Char) : textOfUnits (cs.map Char.toNat) = some cs := by
  induction cs with
  | nil => rfl
  | cons c cs ih =>
    have hvalid : c.toNat < 0xd800 ∨ 0xdfff < c.toNat ∧ c.toNat < 0x110000 := c.valid
    have hhigh : isHighSurrogate c.toNat = false := by
      simp only [isHighSurrogate, Bool.and_eq_false_iff, decide_eq_false_iff_not]
      omega
    have hlow : isLowSurrogate c.toNat = false := by
      simp only [isLowSurrogate, Bool.and_eq_false_iff, decide_eq_false_iff_not]
      omega
    rw [List.map_cons, textOfUnits.eq_def]
    simp [hhigh, hlow, ih, Char.ofNat_toNat]

theorem readText?_quoted (s : String) (rest : List Char) :
    readText? (s.toList.flatMap escapeChar ++ '"' :: rest) = some (some s, rest) := by
  simp [readText?, readString?_quoted, textOfUnits_map_toNat]

theorem reads_quoteChars (s : String) : Reads (quoteChars s) (.string (some s)) := by
  intro fuel rest _ _
  have hquoted : quoteChars s ++ rest = '"' :: (s.toList.flatMap escapeChar ++ '"' :: rest) := by
    simp [quoteChars]
  rw [hquoted, readValue?, skipSpace_cons rfl]
  simp [readText?_quoted]

/-! ## Texts without escapes -/

/-- No character needs an escape. -/
def Plain (cs : List Char) : Prop := ∀ c ∈ cs, escapeChar c = [c]

instance (cs : List Char) : Decidable (Plain cs) := List.decidableBAll _ cs

namespace Plain

theorem nil : Plain [] := List.forall_mem_nil _

theorem cons {c : Char} {cs : List Char} (hc : escapeChar c = [c]) (hcs : Plain cs) :
    Plain (c :: cs) :=
  List.forall_mem_cons.2 ⟨hc, hcs⟩

theorem append {cs cs' : List Char} (h : Plain cs) (h' : Plain cs') : Plain (cs ++ cs') :=
  List.forall_mem_append.2 ⟨h, h'⟩

/-- Pieces with a separator between them. -/
theorem intercalate {α : Type} {separator : Char} {piece : α → List Char}
    (hseparator : escapeChar separator = [separator]) (hpiece : ∀ x, Plain (piece x))
    (xs : List α) : Plain ([separator].intercalate (xs.map piece)) := by
  cases xs with
  | nil => exact nil
  | cons x xs =>
    rw [List.map_cons, intercalate_cons, List.flatMap_map]
    refine (hpiece x).append fun c hc => ?_
    obtain ⟨x', -, hc⟩ := List.mem_flatMap.1 hc
    exact cons hseparator (hpiece x') c hc

theorem digits {base : Nat} (hone : 1 < base) (hbase : base ≤ 16) (n : Nat) :
    Plain (digits base n) := by
  intro c hc
  obtain ⟨d, hd, rfl⟩ := exists_digit_of_mem_digits hone hc
  match d, Nat.lt_of_lt_of_le hd hbase with
  | 0, _ | 1, _ | 2, _ | 3, _ | 4, _ | 5, _ | 6, _ | 7, _ | 8, _ | 9, _ | 10, _ | 11, _
  | 12, _ | 13, _ | 14, _ | 15, _ => rfl
  | d + 16, h => omega

theorem paddedHex (width n : Nat) : Plain (paddedHex width n) :=
  append (fun _ hc => List.eq_of_mem_replicate hc ▸ rfl) (digits (by decide) (by decide) n)

theorem flatMap_escapeChar {cs : List Char} (h : Plain cs) : cs.flatMap escapeChar = cs := by
  induction cs with
  | nil => rfl
  | cons c cs ih =>
    obtain ⟨hc, hcs⟩ := List.forall_mem_cons.1 h
    rw [List.flatMap_cons, hc, ih hcs]
    rfl

theorem quoteChars_eq {cs : List Char} (h : Plain cs) :
    quoteChars (String.ofList cs) = nameChars cs := by
  rw [quoteChars, String.toList_ofList, h.flatMap_escapeChar, nameChars]

theorem reads_nameChars {cs : List Char} (h : Plain cs) :
    Reads (nameChars cs) (.string (some (String.ofList cs))) :=
  h.quoteChars_eq ▸ reads_quoteChars _

end Plain

/-! ## Objects -/

/-- A member of an object as it is written, and the value it reads as. -/
structure Field where
  name : String
  chars : List Char
  value : Json
  plain : Plain name.toList
  reads : Reads chars value

namespace Field

/-- The text of a member. -/
def text (field : Field) : List Char := member field.name field.chars

/-- The member that a reader makes of it. -/
def entry (field : Field) : Option String × Json := (some field.name, field.value)

theorem text_append (field : Field) (rest : List Char) :
    field.text ++ rest = '"' ::
      (field.name.toList.flatMap escapeChar ++ '"' :: ':' :: (field.chars ++ rest)) := by
  simp [text, member, field.plain.flatMap_escapeChar]

theorem length_text (field : Field) : field.chars.length < field.text.length := by
  simp only [text, member, List.length_append, List.length_cons]
  omega

end Field

/-- A member is read, and then what comes behind it. -/
theorem readMembers?_text (field : Field) {fuel : Nat} (hfuel : field.text.length ≤ fuel)
    (seen : List (Option String × Json)) {rest : List Char} (hrest : Follows rest) :
    readMembers? (fuel + 1) seen (field.text ++ rest)
      = match skipSpace rest with
        | ',' :: rest => readMembers? fuel (field.entry :: seen) rest
        | '\x7d' :: rest => some (.object (field.entry :: seen).reverse, rest)
        | _ => none := by
  have hshorter : field.chars.length < fuel := Nat.lt_of_lt_of_le field.length_text hfuel
  obtain ⟨fuel, rfl⟩ := Nat.exists_eq_add_one.2 (Nat.lt_of_le_of_lt (Nat.zero_le _) hshorter)
  have hcolon : skipSpace (':' :: (field.chars ++ rest)) = ':' :: (field.chars ++ rest) :=
    skipSpace_cons rfl _
  rw [readMembers?, field.text_append, skipSpace_cons rfl]
  simp only [readText?_quoted, Option.bind_eq_bind, Option.bind_some, hcolon,
    field.reads fuel rest (Nat.le_of_lt_succ hshorter) hrest]
  rfl

theorem readMembers?_texts (first : Field) (later : List Field) {fuel : Nat}
    (seen : List (Option String × Json)) (rest : List Char)
    (hfuel : ([','].intercalate ((first :: later).map Field.text)).length ≤ fuel) :
    readMembers? (fuel + 1) seen
        ([','].intercalate ((first :: later).map Field.text) ++ '\x7d' :: rest)
      = some (.object (seen.reverse ++ (first :: later).map Field.entry), rest) := by
  induction later generalizing first fuel seen with
  | nil =>
    rw [List.map_singleton, List.intercalate_singleton] at hfuel ⊢
    rw [readMembers?_text first hfuel seen (.brace rest), skipSpace_cons rfl]
    simp
  | cons next later ih =>
    rw [List.map_cons, List.map_cons, List.intercalate_cons_cons, ← List.map_cons] at hfuel ⊢
    simp only [List.length_append, List.length_singleton] at hfuel
    obtain ⟨fuel, rfl⟩ : ∃ fewer, fuel = fewer + 1 := Nat.exists_eq_add_one.2 (by omega)
    have hlater := ih next (first.entry :: seen) (by omega : _ ≤ fuel)
    rw [List.append_assoc, List.append_assoc, List.singleton_append,
      readMembers?_text first (by omega) seen (.comma _), skipSpace_cons rfl]
    simp only [hlater]
    simp

/-- An object reads as its members, if it has any. -/
theorem reads_objectChars {fields : List Field} (hfields : fields ≠ []) :
    Reads (objectChars (fields.map Field.text)) (.object (fields.map Field.entry)) := by
  intro fuel rest hfuel _
  obtain ⟨first, later, rfl⟩ := List.exists_cons_of_ne_nil hfields
  simp only [objectChars, List.length_append, List.length_cons] at hfuel
  obtain ⟨fuel, rfl⟩ : ∃ fewer, fuel = fewer + 1 := Nat.exists_eq_add_one.2 (by omega)
  have hmembers := readMembers?_texts first later [] rest (by omega : _ ≤ fuel)
  have hhead : ∃ cs, [','].intercalate ((first :: later).map Field.text) ++ '\x7d' :: rest
      = '"' :: cs := by
    rw [List.map_cons, intercalate_cons, List.append_assoc, first.text_append]
    exact ⟨_, rfl⟩
  obtain ⟨cs, hcs⟩ := hhead
  have hobject : objectChars ((first :: later).map Field.text) ++ rest = '\x7b' :: '"' :: cs := by
    rw [← hcs]
    simp [objectChars]
  rw [hcs] at hmembers
  rw [hobject, readValue?, skipSpace_cons rfl]
  simp only [skipSpace_cons (rfl : isSpace '"' = false)]
  exact hmembers

namespace Field

variable (name : String) (hname : Plain name.toList)

def natural (n : Nat) : Field := ⟨name, natChars n, .natural n, hname, reads_natChars n⟩

def quoted (s : String) : Field :=
  ⟨name, quoteChars s, .string (some s), hname, reads_quoteChars s⟩

def plainText (cs : List Char) (hcs : Plain cs) : Field :=
  ⟨name, nameChars cs, .string (some (String.ofList cs)), hname, hcs.reads_nameChars⟩

def bool (b : Bool) : Field :=
  ⟨name, if b then "true".toList else "false".toList, .bool b, hname, reads_bool b⟩

def object (fields : List Field) (hfields : fields ≠ []) : Field :=
  ⟨name, objectChars (fields.map text), .object (fields.map entry), hname,
    reads_objectChars hfields⟩

end Field

/-! ## Fields by name -/

section Fields

variable {fields : List Field}

theorem only?_of_mem (hnames : (fields.map Field.name).Nodup) {field : Field}
    (hfield : field ∈ fields) : only? field.name (fields.map Field.entry) = some field.value := by
  have hfilter : (fields.map Field.entry).filter (fun m => m.1 == some field.name)
      = [field.entry] := by
    induction fields with
    | nil => cases hfield
    | cons first later ih =>
      obtain ⟨hfirst, hlater⟩ := List.nodup_cons.1 hnames
      rcases List.mem_cons.1 hfield with rfl | hfield
      · have hnone : (later.map Field.entry).filter (fun m => m.1 == some field.name) = [] := by
          rw [List.filter_eq_nil_iff]
          intro m hm heq
          obtain ⟨other, hother, rfl⟩ := List.mem_map.1 hm
          have hname : other.name = field.name := Option.some.inj (eq_of_beq heq)
          exact hfirst (hname ▸ List.mem_map_of_mem hother)
        have hself : (field.entry.1 == some field.name) = true := beq_self_eq_true _
        rw [List.map_cons, List.filter_cons, if_pos hself, hnone]
      · have hne : ¬(first.entry.1 == some field.name) = true := by
          intro heq
          have hname : first.name = field.name := Option.some.inj (eq_of_beq heq)
          exact hfirst (hname ▸ List.mem_map_of_mem hfield)
        rw [List.map_cons, List.filter_cons, if_neg hne, ih hlater hfield]
  rw [only?, hfilter]
  rfl

/-- An object that has just the fields asked for gives their values. -/
theorem fields?_object (closed : Bool) {names : List String}
    (hnames : fields.map Field.name = names) (hnodup : names.Nodup) :
    (Json.object (fields.map Field.entry)).fields? closed names
      = some (fields.map Field.value) := by
  subst hnames
  have hvalues : (fields.map Field.name).mapM (only? · (fields.map Field.entry))
      = some (fields.map Field.value) :=
    mapM_map_eq_some fun field hfield => only?_of_mem hnodup hfield
  rw [fields?, hvalues, if_pos]
  rw [List.all_map, List.all_eq_true]
  intro field hfield
  have hname : (fields.map Field.name).contains field.name = true :=
    List.contains_iff_mem.2 (List.mem_map_of_mem hfield)
  exact Bool.or_eq_true_iff.2 (.inr hname)

end Fields

end Flowmeter.Json
