import RpcStubs.Descriptor.Json
import RpcStubs.Diagnostic.Basic

/-!
# Failures to load a descriptor set

A descriptor set cannot be loaded when its text cannot be had, or when the text does not describe
one.
-/

namespace RpcStubs

/-- Why a descriptor set cannot be loaded. -/
inductive LoadError where
  /-- The file at a path cannot be read, for a reason in the words of the system. -/
  | unreadable (path reason : String)
  /-- The text, possibly that of the file at a path, describes no set. -/
  | invalid (path : Option String) (fault : Json.Fault)
deriving Repr, DecidableEq, Inhabited

namespace LoadError

/-- The words of a failure to load. -/
def message : LoadError → String
  | unreadable path _ => "failed to read descriptor set " ++ path
  | invalid none _ => "invalid descriptor set"
  | invalid (some path) _ => "invalid descriptor set " ++ path

/-- A failure to load as it is told to the user. -/
def diagnostic (error : LoadError) : Diagnostic :=
  match error with
  | unreadable _ reason =>
      .because { code := "rpcxgen::descriptor::io", message := error.message } reason
  | invalid _ fault =>
      .because
        { code := "rpcxgen::descriptor::json"
          message := error.message
          help := "descriptor sets are JSON objects with `files` and `types` arrays" }
        fault.message

end LoadError

/-- The set that a text describes, or the failure to load it. -/
def DescriptorSet.load (path : Option String) (text : String) : Except LoadError DescriptorSet :=
  (DescriptorSet.parse text).mapError (.invalid path)

end RpcStubs
