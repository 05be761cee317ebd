-- SUMMARY: Supervision of the stages: how a run starts, what ends it, and what is reported about it.
import Flowmeter.Agent.Status
import Flowmeter.Config
import Flowmeter.Pipeline.State

/-!
# Supervision

The supervisor starts the stages and waits until it is cancelled or a stage
comes to an end by itself, which is a failure. Then it closes the source and
lets the stages finish. If it sees a cancellation and an ending at once, the
cancellation counts.

What stages do while they are left to finish is noted, and changes nothing
about the result.
-/

namespace Flowmeter.Agent

/-- Why a run failed. -/
inductive RunError where
  | setup (cause : ConfigError)
  /-- A stage finished that should have gone on. -/
  | terminated (stage : Stage)
  | stageFailed (stage : Stage)
deriving DecidableEq

namespace RunError

def ofEnding (stage : Stage) : Ending → RunError
  | .finished => .terminated stage
  | .failed => .stageFailed stage

def message : RunError → String
  | .setup cause => cause.message
  | .terminated stage => stage.name ++ " stage terminated unexpectedly"
  | .stageFailed stage => stage.name ++ " stage failed"

end RunError

/-- What the supervisor does that others can see. -/
inductive Effect where
  | report (status : Status)
  | closeSource
  /-- Takes note of a stage that came to its end after the source was closed. -/
  | note (stage : Stage) (ending : Ending)
  /-- Cancels the stages that still run. -/
  | stopStages
deriving DecidableEq

/-- What the supervisor sees when it looks. -/
structure Moment where
  cancelled : Bool
  /-- The stages that have come to an end, the first one in front. -/
  endings : List (Stage × Ending)
deriving DecidableEq

/-- How the wait ends: with an error, or without one if the run was cancelled.
It may not end at all. -/
def watch : List Moment → Option (Option RunError)
  | [] => none
  | moment :: later =>
    if moment.cancelled then some none
    else
      match moment.endings with
      | (stage, ending) :: _ => some (some (.ofEnding stage ending))
      | [] => watch later

/-- A run of the supervisor, which is not complete if the wait does not end.
`drained` lists the endings after the source was closed. -/
def supervise (setup : Except ConfigError Unit) (moments : List Moment)
    (drained : List (Stage × Ending)) : Option (List Effect × Except RunError Unit) :=
  match setup with
  | .error cause =>
    some ([.report .starting, .stopStages, .closeSource, .report .failed], .error (.setup cause))
  | .ok () => do
    let failure ← watch moments
    let shutdown :=
      [.report .starting, .report .started, .report .stopping, .closeSource]
        ++ drained.map (fun (stage, ending) => .note stage ending)
        ++ [.stopStages]
    match failure with
    | none => return (shutdown ++ [.report .stopped], .ok ())
    | some e => return (shutdown ++ [.report .failed], .error e)

/-- The status after these effects, which follow on `status`. -/
def statusAfter (status : Status) (effects : List Effect) : Status :=
  effects.foldl (fun status effect =>
    match effect with
    | .report status => status
    | _ => status) status

end Flowmeter.Agent
