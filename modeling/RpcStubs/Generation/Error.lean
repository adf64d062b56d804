import RpcStubs.Diagnostic.Basic
import RpcStubs.Symbol.Scope

/-!
# Failures of a run

A run fails when a method refers to a type that is not registered, or when the plugin it asks for is
not there.
-/

namespace RpcStubs

/-- The two message types of a method. -/
inductive Side where
  | input
  | output
deriving Repr, DecidableEq, Inhabited

/-- A side as messages call it. -/
def Side.word : Side → String
  | .input => "input"
  | .output => "output"

/-- Where a method refers to a type, by the names as declared. -/
structure Place where
  file : String
  service : String
  method : String
  side : Side
deriving Repr, DecidableEq, Inhabited

/-- Why a run fails. -/
inductive GenerationError where
  /-- A reference to a type that is not registered. -/
  | unresolved (place : Place) (missing : MissingSymbol)
  /-- No plugin goes by the name asked for. -/
  | unknownPlugin (name : String)
deriving Repr, DecidableEq, Inhabited

/-- The words of a missing symbol. -/
def MissingSymbol.message (missing : MissingSymbol) : String :=
  "symbol not found: `" ++ missing.ref ++ "`"

/-- A missing symbol as it is told to the user. -/
def MissingSymbol.headline (missing : MissingSymbol) : Headline where
  code := "rpcxgen::symbol_not_found"
  message := missing.message
  help := "the descriptor set must define every type referenced by a method"

namespace GenerationError

/-- The words of a failure. -/
def message : GenerationError → String
  | unresolved place _ =>
      place.file ++ ": cannot resolve " ++ place.side.word ++ " type of " ++ place.service ++ "."
        ++ place.method
  | unknownPlugin name => "unknown plugin `" ++ name ++ "`"

/-- The reference that could not be resolved, if that is why the run fails. -/
def missing? : GenerationError → Option String
  | unresolved _ missing => some missing.ref
  | unknownPlugin _ => none

/-- A failure as it is told to the user. -/
def diagnostic (error : GenerationError) : Diagnostic :=
  match error with
  | unresolved _ missing =>
      .nested
        { code := "rpcxgen::unresolved_type"
          message := error.message
          help :=
            "the schema compiler must register every message type before stubs are generated" }
        (.alone missing.headline)
  | unknownPlugin _ => .alone { code := "rpcxgen::unknown_plugin", message := error.message }

end GenerationError

end RpcStubs
