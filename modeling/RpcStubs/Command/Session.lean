import RpcStubs.Command.Arguments
import RpcStubs.Command.Help
import RpcStubs.Command.Run
import RpcStubs.Disk.Directory
import RpcStubs.Log.Line

/-!
# Sessions

A session runs the program on a disk, and keeps what is printed and logged meanwhile. What it ends
with is what a shell sees: the exit code, the two outputs and the disk.
-/

namespace RpcStubs.Command

/-- The disk and what was printed and logged so far. -/
structure Session where
  disk : Disk
  printed : String := ""
  logged : List Log.Entry := []

namespace Session

/-- The session after a step. -/
def perform (session : Session) (step : Step) : Except Refusal Session :=
  match step with
  | .log entry => .ok { session with logged := session.logged ++ [entry] }
  | .print text => .ok { session with printed := session.printed ++ text }
  | .makeDirectories path => do
      return { session with disk := ← session.disk.makeDirectories path }
  | .write path content => do
      return { session with disk := ← session.disk.write path (.text content) }

/-- The session after some steps, up to the first that is refused, and why it is. -/
def performAll (session : Session) : List Step → Session × Option Failure
  | [] => (session, none)
  | step :: rest =>
      match session.perform step with
      | .ok next => next.performAll rest
      | .error refusal => (session, step.failure? refusal.message)

/-- The session after a script, and the failure it ends in. -/
def run (session : Session) (script : Script) : Session × Option Failure :=
  match session.performAll script.steps with
  | (session, none) => (session, script.failure)
  | stopped => stopped

end Session

/-- What a run of the program ends with. -/
structure Ending where
  exitCode : Nat
  output : String := ""
  errorOutput : String := ""
  disk : Disk

namespace Ending

/-- The exit code of a run that does what is asked. -/
def success : Nat :=
  0

/-- The exit code of a run that fails. -/
def failure : Nat :=
  1

/-- The exit code of a run with a faulty command line. -/
def misuse : Nat :=
  2

/-- What a session ends with, with the lines of its log that a filter lets through. -/
def ofSession (filter : Log.Filter) : Session × Option Failure → Ending
  | (session, failed) =>
      { exitCode := if failed.isSome then failure else success
        output := session.printed
        errorOutput :=
          String.join (session.logged.filterMap filter.line?)
            ++ failed.elim "" fun failed => failed.message ++ "\n"
        disk := session.disk }

end Ending

/-- The version as it is printed. -/
def versionText : String :=
  programName ++ " " ++ version ++ "\n"

/-- A run of the program on a disk. -/
def run (filter : Log.Filter) (disk : Disk) (arguments : List String) : Ending :=
  match parse arguments with
  | .error error =>
      { exitCode := Ending.misuse, errorOutput := error.message ++ "\n", disk }
  | .ok (.help topic) => { exitCode := Ending.success, output := topic.page.text, disk }
  | .ok .version => { exitCode := Ending.success, output := versionText, disk }
  | .ok (.request request) =>
      let text := (disk.read request.descriptors).mapError Refusal.message
      .ofSession filter (Session.run { disk } (request.script text))

end RpcStubs.Command
