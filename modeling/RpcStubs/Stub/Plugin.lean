import RpcStubs.Stub.Client
import RpcStubs.Stub.Required
import RpcStubs.Stub.Resolution

/-!
# The plugin for the framework's stubs

A plugin makes stubs for one file at a time, or nothing for a file that does not concern it. The one
built in writes the server and the two clients of every service; a file without services does not
concern it.
-/

namespace RpcStubs

open Log (Journaled)

/-- A maker of stubs, known by a name. -/
structure Plugin where
  name : String
  /-- The stubs of a file, nothing if the file does not concern the plugin. -/
  generate : SchemaFile → SymbolTable → Journaled GenerationError (Option Stub.FileStubs)

namespace Stub

/-- The fragments of a service: the server, the dispatching client and the single-target client,
each followed by its methods in order. -/
def serviceFragments (options : Options) (service : ResolvedService) : List Fragment :=
  serverSkeleton service options :: service.methods.map (serverMethod service)
    ++ clientWrapper service options :: service.methods.map (clientMethod service)
    ++ oneClientWrapper service options :: service.methods.map (oneClientMethod service)

/-- The fragments of a file. -/
def fileFragments (options : Options) (file : String) (services : List ResolvedService) :
    List Fragment :=
  provenance file :: services.flatMap (serviceFragments options)

/-- The scope of a file before any of its types is resolved: the packages that every stub needs hold
their own names. -/
def openingScope (options : Options) (file : SchemaFile) : ImportScope :=
  (Required.importPaths options.root).foldl ImportScope.reserve (ImportScope.new file.importPath)

/-- The stubs of a file that has services. -/
def fileStubs (options : Options) (file : SchemaFile) (table : SymbolTable) :
    Journaled GenerationError FileStubs := do
  let (services, scope) ←
    resolveServices table file.name file.services (openingScope options file)
  Journaled.note (services.map fun service => .emitting service.raw service.methods.length)
  return {
    fragments := fileFragments options file.name services
    packages := Required.importPaths options.root
    imports := scope.imports }

/-- The plugin with its options. -/
def plugin (options : Options) : Plugin where
  name := "rpcx"
  generate file table :=
    Journaled.within ⟨file.name, file.services.length⟩ <|
      if file.hasServices then do
        return some (← fileStubs options file table)
      else do
        Journaled.note [.noServices]
        return none

end Stub

end RpcStubs
