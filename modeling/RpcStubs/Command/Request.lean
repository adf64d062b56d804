/-!
# What the program is asked for

A command line asks for stubs, for a check, or for help; or it is at fault, for one of a few
reasons.
-/

namespace RpcStubs.Command

/-- What the program can do. -/
inductive Verb where
  | generate
  | check
deriving Repr, DecidableEq, Inhabited

/-- What there is help about. -/
inductive Topic where
  /-- The program as a whole. -/
  | program
  | verb (verb : Verb)
  /-- The command that gives help. -/
  | help
deriving Repr, DecidableEq, Inhabited

/-- Where generated files go. -/
inductive Destination where
  | standardOutput
  /-- A directory, if one is given, or else the one the program runs in. -/
  | directory (path : Option String)
deriving Repr, DecidableEq, Inhabited

/-- What the program is to do with a descriptor set. -/
inductive Request where
  | generate (descriptors : String) (options : Option String) (destination : Destination)
  | check (descriptors : String) (options : Option String)
deriving Repr, DecidableEq, Inhabited

namespace Request

/-- The file that holds the descriptor set. -/
def descriptors : Request → String
  | generate descriptors _ _ | check descriptors _ => descriptors

/-- The option text, if there is one. -/
def options : Request → Option String
  | generate _ options _ | check _ options => options

end Request

/-- What a command line asks for. -/
inductive Invocation where
  | help (topic : Topic)
  | version
  | request (request : Request)
deriving Repr, DecidableEq, Inhabited

/-- What can be wrong with a command line. -/
inductive UsageError where
  | nothingAsked
  | unknownCommand (word : String)
  | unknownArgument (word : String)
  /-- An option lacks its value, or a path is empty. -/
  | missingValue
  /-- A value for an option that takes none. -/
  | surplusValue (word : String)
  /-- An option given twice, or two options that exclude each other. -/
  | conflict
  | missingDescriptors
deriving Repr, DecidableEq, Inhabited

/-- The words of a usage error. -/
def UsageError.message : UsageError → String
  | nothingAsked => "a command is required"
  | unknownCommand word => "unrecognized command '" ++ word ++ "'"
  | unknownArgument word => "unexpected argument '" ++ word ++ "'"
  | missingValue => "a value is required"
  | surplusValue word => "unexpected value in '" ++ word ++ "'"
  | conflict => "an argument cannot be used with another"
  | missingDescriptors => "the argument <DESCRIPTORS> is required"

end RpcStubs.Command
