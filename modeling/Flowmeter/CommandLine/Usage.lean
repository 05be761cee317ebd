-- SUMMARY: Reading the arguments of the command line, and the mistakes that can be made in them.
import Flowmeter.CommandLine.Key

/-!
# Arguments

Arguments are read from left to right. An option without a value in its own
argument waits for one in the next, which must not look like a flag; a
repeatable option goes on taking values. Behind the argument `--` nothing else
may follow, since the program takes no arguments of other kinds.

Mistakes that concern all arguments, such as a missing or repeated one, are
looked for when all have been read, in the order of declaration.
-/

namespace Flowmeter.CommandLine

/-! ## Words -/

/-- An argument by its looks. -/
inductive Word where
  /-- Two dashes alone. -/
  | terminator
  | long (name : String) (value : Option String)
  | letters (cs : List Char)
  | plain (text : String)
deriving DecidableEq

/-- Any number of dashes beyond the second is ignored, and so are equals signs
beyond the first. -/
def Word.ofText (s : String) : Word :=
  match s.toList with
  | ['-', '-'] => .terminator
  | '-' :: '-' :: cs =>
    let cs := cs.dropWhile (· = '-')
    let name := String.ofList (cs.takeWhile (· ≠ '='))
    match cs.dropWhile (· ≠ '=') with
    | [] => .long name none
    | value => .long name (some (String.ofList (value.dropWhile (· = '='))))
  | '-' :: c :: cs => .letters (c :: cs)
  | _ => .plain s

/-! ## Mistakes -/

/-- Why the arguments do not start the program. Two of the causes are what was asked for. -/
inductive UsageError where
  | help
  | version
  | unknown (argument : String)
  | missingRequired
  | emptyValue (key : Key)
  | invalidValue (key : Key) (value : String)
  | repeated (key : Key)
deriving DecidableEq

/-- What went wrong, in one line. -/
def UsageError.message : UsageError → String
  | .help | .version => ""
  | .unknown argument =>
    "error: Found argument '" ++ argument
      ++ "' which wasn't expected, or isn't valid in this context"
  | .missingRequired => "error: The following required arguments were not provided:"
  | .emptyValue key =>
    "error: The argument '" ++ key.usage ++ "' requires a value but none was supplied"
  | .invalidValue key value => "error: '" ++ value ++ "' isn't a valid value for '" ++ key.usage ++ "'"
  | .repeated key =>
    "error: The argument '" ++ key.usage
      ++ "' was provided more than once, but cannot be used multiple times"

/-! ## Scanning -/

/-- What an argument contributes. -/
inductive Token where
  | key (key : Key)
  | value (key : Key) (value : String)
deriving DecidableEq

/-- A flag or option appears. -/
def meet (key : Key) (value : Option String) : Except UsageError (List Token) :=
  match key with
  | .help => .error .help
  | .version => .error .version
  | key =>
    if key.takesValue then .ok (.key key :: (value.map (Token.value key)).toList)
    else .ok [.key key]

def meetLetters : List Char → Except UsageError (List Token)
  | [] => .ok []
  | c :: cs =>
    match Key.ofLetter? c with
    | none => .error (.unknown (String.ofList ['-', c]))
    | some key => do
      let tokens ← meet key none
      return tokens ++ (← meetLetters cs)

/-- Reads the arguments while `awaiting` takes values, and says which option does so in the end. -/
def scan : Option Key → List String → Except UsageError (List Token × Option Key)
  | awaiting, [] => .ok ([], awaiting)
  | awaiting, argument :: arguments =>
    match Word.ofText argument with
    | .terminator =>
      match arguments with
      | [] => .ok ([], awaiting)
      | extra :: _ => .error (.unknown extra)
    | .long name value =>
      match Key.ofLong? name with
      | none => .error (.unknown ("--" ++ name))
      | some key => do
        let tokens ← meet key value
        let awaiting := if key.takesValue && value.isNone then some key else none
        let (later, awaiting) ← scan awaiting arguments
        return (tokens ++ later, awaiting)
    | .letters cs => do
      let tokens ← meetLetters cs
      let (later, awaiting) ← scan none arguments
      return (tokens ++ later, awaiting)
    | .plain text =>
      match awaiting with
      | none => .error (.unknown text)
      | some key => do
        let awaiting := if key.isRepeatable then some key else none
        let (later, awaiting) ← scan awaiting arguments
        return (.value key text :: later, awaiting)

/-! ## Arguments -/

/-- Arguments that were read. -/
structure Arguments where
  tokens : List Token
deriving DecidableEq

namespace Arguments

/-- How often the key was given. -/
def count (a : Arguments) (key : Key) : Nat := a.tokens.count (.key key)

/-- The values given to the key. -/
def given (a : Arguments) (key : Key) : List String :=
  a.tokens.filterMap fun
    | .value k value => if k = key then some value else none
    | .key _ => none

/-- The values of the key, where a default stands in for none. -/
def values (a : Arguments) (key : Key) : List String :=
  match a.given key with
  | [] => key.default?.toList
  | values => values

/-- The first value of the key. -/
def value? (a : Arguments) (key : Key) : Option String := (a.values key).head?

def contains (a : Arguments) (key : Key) : Bool := 0 < a.count key

/-- The mistake that was made with one key, if any. -/
def mistake? (a : Arguments) (key : Key) : Option UsageError :=
  if !a.contains key then none
  else if key.takesValue && (a.values key).isEmpty then some (.emptyValue key)
  else
    let isWrong (value : String) : Bool := key.choices ≠ [] && !key.choices.contains value
    match (a.values key).find? isWrong with
    | some value => some (.invalidValue key value)
    | none => if 1 < a.count key && !key.isRepeatable then some (.repeated key) else none

/-- Checks arguments that were read to the end, where `awaiting` still takes values. -/
def check (a : Arguments) (awaiting : Option Key) : Except UsageError Unit :=
  if Key.required.any fun key => !a.contains key then .error .missingRequired
  else
    match awaiting.filter fun key => (a.values key).isEmpty with
    | some key => .error (.emptyValue key)
    | none =>
      match Key.all.findSome? a.mistake? with
      | some e => .error e
      | none => .ok ()

def read (arguments : List String) : Except UsageError Arguments := do
  let (tokens, awaiting) ← scan none arguments
  let a : Arguments := ⟨tokens⟩
  a.check awaiting
  return a

end Arguments

end Flowmeter.CommandLine
