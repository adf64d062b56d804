import RpcStubs.Go.Name
import RpcStubs.Symbol.Scope

/-!
# Services ready for printing

Before any stub is written, every name of a service is put into its exported form and every message
type is resolved to the text that code refers to it by.
-/

namespace RpcStubs.Stub

/-- A method with its two message types resolved. -/
structure ResolvedMethod where
  /-- The name as declared, by which the method is called remotely. -/
  raw : String
  input : ResolvedType
  output : ResolvedType
deriving Repr, DecidableEq, Inhabited

/-- A service with its methods resolved. -/
structure ResolvedService where
  /-- The name as declared. -/
  raw : String
  methods : List ResolvedMethod := []
deriving Repr, DecidableEq, Inhabited

/-- The name under which the stubs of a method are declared. -/
def ResolvedMethod.exported (method : ResolvedMethod) : String :=
  Go.exported method.raw

/-- The name from which the identifiers of a service are spelled. -/
def ResolvedService.exported (service : ResolvedService) : String :=
  Go.exported service.raw

end RpcStubs.Stub
