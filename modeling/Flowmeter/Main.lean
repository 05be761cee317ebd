-- SUMMARY: The command line program.
import Flowmeter.Program

/-!
# Main

This module alone touches the world: it takes the arguments, reads the input
and prints. The interfaces of the host are not known here, so the agent's
address has to be among the arguments, and no connection leaves the program.
-/

namespace Flowmeter.Program

/-- The file or directory at a path. Entries of a directory are not looked at. -/
def readInput (path : String) : IO (Except OsError FileTree) := do
  match ← (IO.FS.readBinFile path).toBaseIO with
  | .ok content => return .ok (.file content.toList)
  | .error (.noFileOrDirectory ..) => return .error .noSuchFile
  | .error (.inappropriateType _ 20 _) => return .error .notADirectory
  | .error (.inappropriateType ..) => return .ok (.directory [])
  | .error (.invalidArgument _ 36 _) => return .error .fileNameTooLong
  | .error e => throw e

/-- The host with the input at `path`, as far as it can be seen. -/
def findHost (path : String) : IO Host :=
  return { links := [], names := [], clock := ⟨0⟩, input := ← readInput path }

def report (reply : Reply) : IO UInt32 := do
  unless reply.stdout.isEmpty do IO.print reply.stdout
  unless reply.stderr.isEmpty do IO.eprintln reply.stderr
  return reply.code.toUInt32

/-- What a run without end comes to. -/
partial def wait : IO UInt32 := do
  IO.sleep 1000
  wait

end Flowmeter.Program

open Flowmeter.Program in
def main (arguments : List String) : IO UInt32 := do
  match start arguments with
  | .error halt => report halt.reply
  | .ok invocation =>
    let host ← findHost invocation.input
    match reply arguments fun _ => host with
    | some reply => report reply
    | none => wait
