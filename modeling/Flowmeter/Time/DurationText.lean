-- SUMMARY: Durations as people write them, such as `1m 30s` or `1.5h`.
import Flowmeter.Text.Blank
import Flowmeter.Time.Duration

/-!
# Durations in words

A duration is written as a sequence of parts, each a number and a unit, which
are added up. Blanks may stand between parts, in front of a unit, and between
the digits of a number. A number may have a fraction, which has to come out as
whole nanoseconds for units up to the minute and as whole seconds for the
longer ones. The text `0` needs no unit.

All arithmetic is on 64-bit numbers, and leaving their range makes the text
malformed. One sum is beyond durations though its parts are not, and it breaks
the reading off. The text is read in one pass, character by character.
-/

namespace Flowmeter.DurationText

/-! ## Units -/

inductive Unit where
  | nanosecond
  | microsecond
  | millisecond
  | second
  | minute
  | hour
  | day
  | week
  | month
  | year
deriving DecidableEq

def Unit.ofName? : String → Option Unit
  | "nanos" | "nsec" | "ns" => some .nanosecond
  | "usec" | "us" | "\u00b5s" => some .microsecond
  | "millis" | "msec" | "ms" => some .millisecond
  | "seconds" | "second" | "secs" | "sec" | "s" => some .second
  | "minutes" | "minute" | "min" | "mins" | "m" => some .minute
  | "hours" | "hour" | "hr" | "hrs" | "h" => some .hour
  | "days" | "day" | "d" => some .day
  | "weeks" | "week" | "wk" | "wks" | "w" => some .week
  | "months" | "month" | "M" => some .month
  | "years" | "year" | "yr" | "yrs" | "y" => some .year
  | _ => none

/-- The nanoseconds of units below the second. -/
def Unit.nanos? : Unit → Option Nat
  | .nanosecond => some 1
  | .microsecond => some 1000
  | .millisecond => some 1000000
  | _ => none

/-- The seconds of units from the second on; months and years are mean ones. -/
def Unit.seconds : Unit → Nat
  | .minute => 60
  | .hour => 3600
  | .day => 86400
  | .week => 604800
  | .month => 2630016
  | .year => 31557600
  | _ => 1

/-- The nanoseconds of the units whose fractions are nanoseconds. -/
def Unit.fractionNanos? : Unit → Option Nat
  | .microsecond => some 1000
  | .millisecond => some 1000000
  | .second => some 1000000000
  | .minute => some 60000000000
  | _ => none

/-! ## Arithmetic -/

/-- Why a reading stops. -/
inductive Problem where
  /-- The text is not a duration. -/
  | malformed
  /-- The reading is broken off. -/
  | overflow (cause : TimeOverflow)
deriving DecidableEq

def word (n : Nat) : Except Problem Nat := if n < UInt64.size then .ok n else .error .malformed

/-- A fraction as its digits read as a number, and the power of ten it is divided by. -/
structure Fraction where
  numerator : Nat
  denominator : Nat
deriving DecidableEq

/-- The fraction of `n`, if it is whole. -/
def Fraction.of (f : Fraction) (n : Nat) : Except Problem Nat := do
  let product ← word (f.numerator * n)
  if product % f.denominator = 0 then return product / f.denominator else .error .malformed

/-- Adds seconds and nanoseconds to a total. More than a second of nanoseconds
carries here and may make the text malformed; exactly a second carries when
the duration is made, and that overflows. -/
def add (total : Duration) (seconds nanos : Nat) : Except Problem Duration := do
  let nanos ← word (total.subsecNanos + nanos)
  let carry := if nanosPerSecond < nanos then nanos / nanosPerSecond else 0
  let seconds ← word (seconds + carry)
  let seconds ← word (total.seconds + seconds)
  match Duration.ofParts seconds (nanos - carry * nanosPerSecond) with
  | .ok d => return d
  | .error cause => .error (.overflow cause)

/-- Adds `n` units and a fraction of one. -/
def addPart (total : Duration) (n : Nat) (fraction : Option Fraction) (unit : Unit) :
    Except Problem Duration := do
  let total ←
    match unit.nanos? with
    | some nanos => add total 0 (← word (n * nanos))
    | none => add total (← word (n * unit.seconds)) 0
  match fraction with
  | none => return total
  | some fraction =>
    match unit.fractionNanos?, unit with
    | some nanos, _ => add total 0 (← fraction.of nanos)
    | none, .nanosecond => .error .malformed
    | none, unit => add total (← fraction.of unit.seconds) 0

/-! ## Reading -/

/-- Where a reader stands in a text. -/
inductive Place where
  /-- Before the first part. -/
  | start
  /-- Between two parts or after the last one. -/
  | between (total : Duration)
  | number (total : Duration) (n : Nat)
  | fraction (total : Duration) (n : Nat) (fraction : Fraction)
  /-- In a unit, whose letters are kept in reverse. -/
  | unit (total : Duration) (n : Nat) (fraction : Option Fraction) (letters : List Char)

def digit? (c : Char) : Option Nat := if c.isDigit then some (c.toNat - '0'.toNat) else none

def isUnitLetter (c : Char) : Bool := c.isAlpha || c = '\u00b5'

/-- The total after a part whose unit has ended. -/
def closePart (total : Duration) (n : Nat) (fraction : Option Fraction) (letters : List Char) :
    Except Problem Duration :=
  match Unit.ofName? (String.ofList letters.reverse) with
  | some unit => addPart total n fraction unit
  | none => .error .malformed

def firstDigit (total : Duration) (place : Place) (c : Char) : Except Problem Place :=
  match digit? c with
  | some d => .ok (.number total d)
  | none => if Text.isBlank c then .ok place else .error .malformed

def Place.step : Place → Char → Except Problem Place
  | .start, c => firstDigit .zero .start c
  | .between total, c => firstDigit total (.between total) c
  | .number total n, c =>
    match digit? c with
    | some d => return .number total (← word (n * 10 + d))
    | none =>
      if Text.isBlank c then .ok (.number total n)
      else if isUnitLetter c then .ok (.unit total n none [c])
      else if c = '.' then .ok (.fraction total n ⟨0, 1⟩)
      else .error .malformed
  | .fraction total n f, c =>
    match digit? c with
    | some d =>
      return .fraction total n ⟨← word (f.numerator * 10 + d), ← word (f.denominator * 10)⟩
    | none =>
      if Text.isBlank c then .ok (.fraction total n f)
      else if isUnitLetter c ∧ f.denominator ≠ 1 then .ok (.unit total n (some f) [c])
      else .error .malformed
  | .unit total n f letters, c =>
    match digit? c with
    | some d => return .number (← closePart total n f letters) d
    | none =>
      if Text.isBlank c then return .between (← closePart total n f letters)
      else if isUnitLetter c then .ok (.unit total n f (c :: letters))
      else .error .malformed

def Place.finish : Place → Except Problem Duration
  | .between total => .ok total
  | .unit total n f letters => closePart total n f letters
  | _ => .error .malformed

def read (s : String) : Except Problem Duration :=
  if s = "0" then .ok .zero
  else do (← s.toList.foldlM Place.step .start).finish

/-- The duration that a text is, if it is one. -/
def parse (s : String) : Except TimeOverflow (Option Duration) :=
  match read s with
  | .ok d => .ok (some d)
  | .error .malformed => .ok none
  | .error (.overflow cause) => .error cause

end Flowmeter.DurationText
