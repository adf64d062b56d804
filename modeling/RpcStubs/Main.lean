import RpcStubs.Command.Session

/-!
# The program

The steps of a script are done to the surroundings of the program, and a faulty one ends it.
-/

namespace RpcStubs.Command

/-- Why the system refuses something, in its words. -/
def reasonOf : IO.Error → String
  | .noFileOrDirectory .. => Refusal.missing.message
  | .alreadyExists .. => Refusal.taken.message
  | error => error.toString

/-- Do something that may be refused, and give the reason if it is. -/
def attempt (action : IO Unit) : IO (Option String) := do
  try
    action
    return none
  catch error =>
    return some (reasonOf error)

/-- The text of a file, or the reason that it cannot be had. -/
def readText (path : String) : IO (Except String String) := do
  try
    let bytes ← IO.FS.readBinFile path
    match String.fromUTF8? bytes with
    | some text => return .ok text
    | none => return .error Refusal.notText.message
  catch error =>
    return .error (reasonOf error)

/-- Do a step, and give the reason if it is refused. -/
def Step.perform (filter : Log.Filter) : Step → IO (Option String)
  | .log entry => do
      (filter.line? entry).forM IO.eprint
      return none
  | .print text => do
      IO.print text
      return none
  | .makeDirectories path => attempt (IO.FS.createDirAll path)
  | .write path content => attempt (IO.FS.writeFile path content)

/-- Do the steps of a script, and give the failure it ends in. -/
def Script.perform (filter : Log.Filter) (script : Script) : IO (Option Failure) := do
  for step in script.steps do
    if let some reason ← step.perform filter then
      return step.failure? reason
  return script.failure

/-- The variable of the environment that sets the log filter. -/
def filterVariable : String :=
  "RUST_LOG"

/-- The log filter that the environment asks for. -/
def readFilter : IO Log.Filter := do
  let text ← IO.getEnv filterVariable
  return (text.bind Log.Filter.parse?).getD { level := some .info }

/-- Do what a request asks for, and give the exit code. -/
def Request.perform (request : Request) : IO Nat := do
  let text ← readText request.descriptors
  match ← (request.script text).perform (← readFilter) with
  | none => return Ending.success
  | some failure => do
      IO.eprintln failure.message
      return Ending.failure

/-- Do what the arguments ask for, and give the exit code. -/
def perform (arguments : List String) : IO Nat := do
  match parse arguments with
  | .error error => do
      IO.eprintln error.message
      return Ending.misuse
  | .ok (.help topic) => do
      IO.print topic.page.text
      return Ending.success
  | .ok .version => do
      IO.print versionText
      return Ending.success
  | .ok (.request request) => request.perform

end RpcStubs.Command

/-- The program. -/
def main (arguments : List String) : IO UInt32 := do
  return (← RpcStubs.Command.perform arguments).toUInt32
