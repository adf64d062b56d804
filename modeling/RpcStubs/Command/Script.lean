import RpcStubs.Diagnostic.Report
import RpcStubs.Log.Journal

/-!
# Scripts

What the program does to its surroundings is a list of steps, with the failure it ends in if it ends
in one. The steps are done in order; a step that fails is the last one.
-/

namespace RpcStubs.Command

/-- Why the program fails. -/
inductive Failure where
  /-- A failure with a report of its own. -/
  | told (diagnostic : Diagnostic)
  /-- A generated file would not be below the output directory. -/
  | escapes (path : String)
  /-- A directory cannot be made, for a reason in the words of the system. -/
  | noDirectory (path reason : String)
  /-- A file cannot be written, for a reason in the words of the system. -/
  | notWritten (path reason : String)
deriving Repr, DecidableEq, Inhabited

/-- The words of a failure. -/
def Failure.message : Failure → String
  | told diagnostic => diagnostic.report
  | escapes path => "Generated path '" ++ path ++ "' escapes the output directory"
  | noDirectory path reason => "Error creating directory " ++ path ++ ": " ++ reason
  | notWritten path reason => "Error writing " ++ path ++ ": " ++ reason

/-- Something done to the surroundings. -/
inductive Step where
  | log (entry : Log.Entry)
  /-- Make a directory and those above it, as far as they are missing. -/
  | makeDirectories (path : String)
  | write (path content : String)
  | print (text : String)
deriving Repr, DecidableEq, Inhabited

/-- Why a step fails that the system refuses. Nothing is refused but directories and files. -/
def Step.failure? (reason : String) : Step → Option Failure
  | makeDirectories path => some (.noDirectory path reason)
  | write path _ => some (.notWritten path reason)
  | log _ | print _ => none

/-- Steps to be done, and the failure behind them. -/
structure Script where
  steps : List Step := []
  failure : Option Failure := none
deriving Repr, DecidableEq, Inhabited

namespace Script

/-- The script that only fails. -/
def fail (failure : Failure) : Script :=
  { failure }

/-- The script with some steps before it. -/
def after (steps : List Step) (script : Script) : Script :=
  { script with steps := steps ++ script.steps }

/-- What is done behind a computation that logs: nothing if it fails. -/
def ofJournaled {α : Type} (computation : Log.Journaled Failure α) (next : α → Script) : Script :=
  .after (computation.journal.map .log) <|
    match computation.outcome with
    | .ok value => next value
    | .error failure => fail failure

end Script

end RpcStubs.Command
