import RpcStubs.Log.Journal
import RpcStubs.Stub.Resolved

/-!
# Resolving the services of a file

All references of a file are resolved in one scope, in the order of services, methods, input before
output. The first reference that the symbol table does not hold ends the work.
-/

namespace RpcStubs.Stub

open Log (Journaled Event)

/-- What the log says about the resolution of a reference. -/
def resolutionEvents (table : SymbolTable) (scope : ImportScope) (ref : String) : List Event :=
  match table.find? ref with
  | none => []
  | some type =>
      (scope.renaming? type).toList.map .renamed ++ [.resolved ref (scope.print type).1.name]

/-- Resolve the reference at a place. -/
def resolveAt (table : SymbolTable) (place : Place) (ref : String) (scope : ImportScope) :
    Journaled GenerationError (ResolvedType × ImportScope) :=
  ⟨(resolutionEvents table scope ref).map (.event none),
    (scope.resolve table ref).mapError (.unresolved place)⟩

/-- Resolve both types of a method. -/
def resolveMethod (table : SymbolTable) (file service : String) (method : Method)
    (scope : ImportScope) : Journaled GenerationError (ResolvedMethod × ImportScope) := do
  let (input, scope) ← resolveAt table ⟨file, service, method.name, .input⟩ method.input scope
  let (output, scope) ← resolveAt table ⟨file, service, method.name, .output⟩ method.output scope
  let resolved : ResolvedMethod := ⟨method.name, input, output⟩
  unless Go.isExported resolved.exported do
    Journaled.note [.hiddenMethod service method.name]
  return (resolved, scope)

/-- Resolve methods one after the other. -/
def resolveMethods (table : SymbolTable) (file service : String) :
    List Method → ImportScope → Journaled GenerationError (List ResolvedMethod × ImportScope)
  | [], scope => return ([], scope)
  | method :: rest, scope => do
      let (first, scope) ← resolveMethod table file service method scope
      let (later, scope) ← resolveMethods table file service rest scope
      return (first :: later, scope)

/-- Resolve the methods of a service. -/
def resolveService (table : SymbolTable) (file : String) (service : Service)
    (scope : ImportScope) : Journaled GenerationError (ResolvedService × ImportScope) := do
  unless Go.isExported (Go.exported service.name) do
    Journaled.note [.hiddenService service.name]
  let (methods, scope) ← resolveMethods table file service.name service.methods scope
  return (⟨service.name, methods⟩, scope)

/-- Resolve services one after the other. -/
def resolveServices (table : SymbolTable) (file : String) :
    List Service → ImportScope → Journaled GenerationError (List ResolvedService × ImportScope)
  | [], scope => return ([], scope)
  | service :: rest, scope => do
      let (first, scope) ← resolveService table file service scope
      let (later, scope) ← resolveServices table file rest scope
      return (first :: later, scope)

end RpcStubs.Stub
