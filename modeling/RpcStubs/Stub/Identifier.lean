/-!
# Identifiers of a service's stubs

Every service gives rise to eight top-level Go names, each spelled from the exported service name by
fixed words around it.
-/

namespace RpcStubs.Stub

/-- What a top-level name of a service's stubs stands for. -/
inductive Identifier where
  /-- The type that implements the service. -/
  | serverType
  /-- The function that serves it. -/
  | serveFunction
  /-- The wrapper around a dispatching client. -/
  | clientType
  /-- The function that wraps a dispatching client. -/
  | clientConstructor
  /-- The function that makes a dispatching client. -/
  | clientFactory
  /-- The wrapper around a single-target client. -/
  | oneClientType
  /-- The function that wraps a single-target client. -/
  | oneClientConstructor
  /-- The function that makes a single-target client. -/
  | oneClientFactory
deriving Repr, DecidableEq, Inhabited

namespace Identifier

/-- The eight names, server first. -/
def all : List Identifier :=
  [serverType, serveFunction, clientType, clientConstructor, clientFactory, oneClientType,
    oneClientConstructor, oneClientFactory]

theorem mem_all (identifier : Identifier) : identifier ∈ all := by
  cases identifier <;> decide

/-- What stands before the service name. -/
def opening : Identifier → String
  | serverType | clientType | oneClientType => ""
  | serveFunction => "ServeFor"
  | clientConstructor | oneClientConstructor => "New"
  | clientFactory => "NewXClientFor"
  | oneClientFactory => "NewOneClientFor"

/-- What stands after the service name. -/
def ending : Identifier → String
  | serverType => "Impl"
  | serveFunction | clientFactory | oneClientFactory => ""
  | clientType | clientConstructor => "Client"
  | oneClientType | oneClientConstructor => "OneClient"

/-- The name for a service. -/
def spell (identifier : Identifier) (service : String) : String :=
  identifier.opening ++ service ++ identifier.ending

theorem toList_spell (identifier : Identifier) (service : String) :
    (identifier.spell service).toList =
      identifier.opening.toList ++ service.toList ++ identifier.ending.toList := by
  simp [spell]

end Identifier

end RpcStubs.Stub
