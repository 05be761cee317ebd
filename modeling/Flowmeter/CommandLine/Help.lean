-- SUMMARY: The help page and the version line.
import Flowmeter.CommandLine.Key

/-!
# Help
-/

namespace Flowmeter.CommandLine

def programName : String := "kflow"

def programVersion : String := "0.1.0"

def versionLine : String := programName ++ " " ++ programVersion

namespace Help

def flags : List Key := [.help, .justMark, .version, .verbose]

/-- The options by the names of the settings behind them. -/
def options : List Key :=
  [.activeTimeout, .agentIp, .agentIpIface, .agentIpType, .brokers, .bufferLength, .dedupExpiry,
    .deduper, .exportKind, .host, .input, .logTimeout, .maxFlows, .port, .refresh, .topic]

def spaces (n : Nat) : String := String.ofList (List.replicate n ' ')

/-- What stands behind the description of an option about its values. -/
def restrictions (key : Key) : List String :=
  (key.default?.map fun value => " [default: " ++ value ++ "]").toList
    ++ if key.choices = [] then []
       else [" [possible values: " ++ String.intercalate ", " key.choices ++ "]"]

/-- The line of a key, with its description `width` columns and a gap behind the margin. -/
def line (width : Nat) (key : Key) : String :=
  let letter :=
    match key.letter? with
    | none => spaces 4
    | some c => String.ofList ['-', c, ',', ' ']
  spaces 4 ++ letter ++ key.usage ++ spaces (width - key.usage.length + 4) ++ key.description
    ++ String.intercalate " " (restrictions key)

def table (title : String) (keys : List Key) : String :=
  let width := (keys.map fun key => key.usage.length).foldl Nat.max 0
  String.intercalate "\n" ((title ++ ":") :: keys.map (line width))

def usageLine : String :=
  programName ++ " [FLAGS] [OPTIONS] " ++ String.intercalate " " (Key.required.map Key.usage)

def page : String :=
  versionLine ++ "\nnetwork flow agent\n\nUSAGE:\n" ++ spaces 4 ++ usageLine ++ "\n\n"
    ++ table "FLAGS" flags ++ "\n\n" ++ table "OPTIONS" options

end Help

end Flowmeter.CommandLine
