-- SUMMARY: The program: from arguments to the run of an agent, and what it leaves behind.
import Flowmeter.Agent.Run
import Flowmeter.CommandLine.Help
import Flowmeter.CommandLine.Settings
import Flowmeter.Export.Uplink
import Flowmeter.FileTree

/-!
# Program

The program reads its arguments, connects to the target, opens its input and
runs an agent on it until the input ends. Of the kinds of targets only one can
be reached. A step that fails ends the program, and those behind it are not
taken. A fault breaks the program off wherever it happens.
-/

namespace Flowmeter.Program

open CommandLine Export

/-! ## Running -/

/-- Why a run of the program failed. -/
inductive RunError where
  | config (cause : ConfigError)
  | unavailable (target : Target)
  | input (cause : OsError)
  | agent (cause : Agent.RunError)

def RunError.message : RunError → String
  | .config cause => cause.message
  | .unavailable target => target.text ++ " exporter not available"
  | .input cause => cause.message
  | .agent cause => cause.message

/-- What the program finds around it. -/
structure Host where
  links : List Link
  /-- The names of the links by their indexes. -/
  names : Link.Table
  clock : Clock
  /-- What stands at the path of the input. -/
  input : Except OsError FileTree

/-- What a run has led to. -/
structure Outcome where
  result : Except RunError Unit
  /-- What went over each connection to the target. -/
  connections : List Bytes
  log : List Log.Line

/-- Runs an agent on the input to its end, if it has one, and returns what it exported.
Readings of a directory fail for ever, and nothing else comes of it. -/
def runAgent (config : Config) (host : Host) (input : FileTree) :
    Except Fault (Option (Except RunError Unit × List Batch)) :=
  match Agent.create config host.links with
  | .error cause => .error (.time cause)
  | .ok (.error cause) => .ok (some (.error (.config cause), []))
  | .ok (.ok agent) => do
    let (source, stimulus) :=
      match input with
      | .file content => ((Intake.eventsOf content).map Except.ok, Agent.Stimulus.sourceCloses)
      | .directory _ => ([], Agent.Stimulus.none)
    let world : Agent.World :=
      { clock := host.clock, source, names := host.names, exporterFailsAt := none, stimulus }
    let outcome ← agent.run world
    return outcome.map fun o => (o.result.mapError RunError.agent, o.batches)

/-- Exports batches over a connection to the target. -/
def ship (batches : List Batch) : List Bytes × List Log.Line :=
  let (lines, uplink) := Uplink.empty.submitAll batches
  let uplink := uplink.close
  let events := Uplink.dispatch uplink.steps uplink
  (Uplink.Event.connections events, lines ++ Uplink.Event.lines events)

/-- The run of the program, if it comes to an end. The target is connected to
before the input is opened and the other settings are checked. -/
def run (config : Config) (host : Host) : Except Fault (Option Outcome) :=
  match config.target with
  | .error cause =>
    return some { result := .error (.config cause), connections := [], log := [] }
  | .ok (.tcp _ _) => do
    let ended ←
      match host.input with
      | .error cause => pure (some (.error (.input cause), []))
      | .ok input => runAgent config host input
    return ended.map fun (result, batches) =>
      let (connections, log) := ship batches
      { result, connections, log }
  | .ok target =>
    return some { result := .error (.unavailable target), connections := [], log := [] }

/-! ## Starting -/

/-- The settings and the path of the input. -/
structure Invocation where
  config : Config
  input : String

/-- Why the program ends. -/
inductive Halt where
  | usage (cause : UsageError)
  | argument (cause : ArgumentError)
  | run (cause : RunError)
  | fault (cause : Fault)

def start (arguments : List String) : Except Halt Invocation :=
  match Arguments.read arguments with
  | .error cause => .error (.usage cause)
  | .ok a =>
    match a.config with
    | .error cause => .error (.fault (.time cause))
    | .ok (.error cause) => .error (.argument cause)
    | .ok (.ok config) => .ok { config, input := (a.value? .input).getD "" }

/-- What the program leaves for whoever started it. -/
structure Reply where
  code : UInt8
  stdout : String
  stderr : String
deriving DecidableEq

namespace Halt

def reply : Halt → Reply
  | .usage .help => { code := 0, stdout := Help.page ++ "\n", stderr := "" }
  | .usage .version => { code := 0, stdout := versionLine ++ "\n", stderr := "" }
  | .usage cause => { code := 1, stdout := "", stderr := cause.message }
  | .argument cause => { code := 1, stdout := "", stderr := "Error: " ++ cause.message }
  | .run cause => { code := 1, stdout := "", stderr := "Error: " ++ cause.message }
  | .fault cause => { code := 101, stdout := "", stderr := cause.message }

end Halt

/-- Starts the program and runs it to its end, if it has one; `host` depends on
the path of the input. -/
def reply (arguments : List String) (host : String → Host) : Option Reply :=
  match start arguments with
  | .error halt => some halt.reply
  | .ok invocation =>
    match run invocation.config (host invocation.input) with
    | .error cause => some (Halt.reply (.fault cause))
    | .ok outcome =>
      outcome.map fun o =>
        match o.result with
        | .ok () => { code := 0, stdout := "", stderr := "" }
        | .error cause => Halt.reply (.run cause)

end Flowmeter.Program
