-- SUMMARY: Errors of the operating system, with their numbers and texts.
import Flowmeter.Text.Numeral
import Flowmeter.Text.Quoted

/-!
# Errors of the operating system
-/

namespace Flowmeter

inductive OsError where
  | noSuchFile
  | notADirectory
  | isADirectory
  | fileNameTooLong
  | networkUnreachable
  | connectionRefused
deriving DecidableEq

namespace OsError

def number : OsError → Nat
  | .noSuchFile => 2
  | .notADirectory => 20
  | .isADirectory => 21
  | .fileNameTooLong => 36
  | .networkUnreachable => 101
  | .connectionRefused => 111

def reason : OsError → String
  | .noSuchFile => "No such file or directory"
  | .notADirectory => "Not a directory"
  | .isADirectory => "Is a directory"
  | .fileNameTooLong => "File name too long"
  | .networkUnreachable => "Network is unreachable"
  | .connectionRefused => "Connection refused"

def kind : OsError → String
  | .noSuchFile => "NotFound"
  | .notADirectory => "NotADirectory"
  | .isADirectory => "IsADirectory"
  | .fileNameTooLong => "InvalidFilename"
  | .networkUnreachable => "NetworkUnreachable"
  | .connectionRefused => "ConnectionRefused"

def message (e : OsError) : String :=
  e.reason ++ " (os error " ++ Text.decimal e.number ++ ")"

/-- The error with all its parts. -/
def details (e : OsError) : String :=
  "Os \x7b code: " ++ Text.decimal e.number ++ ", kind: " ++ e.kind
    ++ ", message: " ++ Text.quote e.reason ++ " \x7d"

end OsError

end Flowmeter
