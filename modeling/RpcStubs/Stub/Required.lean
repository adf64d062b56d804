import RpcStubs.Go.ImportPath

/-!
# Packages every stub file needs

Four packages are imported by every file with services: three below the root of the framework, and
the standard library's `context`.
-/

namespace RpcStubs.Stub

/-- A package that every file with services imports. -/
inductive Required where
  | server
  | client
  | protocol
  | context
deriving Repr, DecidableEq, Inhabited

namespace Required

/-- The four packages in the order in which they are declared. -/
def all : List Required :=
  [server, client, protocol, context]

theorem mem_all (package : Required) : package ∈ all := by
  cases package <;> decide

/-- The name of a package. -/
def name : Required → String
  | server => "server"
  | client => "client"
  | protocol => "protocol"
  | context => "context"

/-- The path of a package below the root it belongs to. -/
def path (package : Required) : String :=
  package.name

/-- Whether a package is part of the standard library. -/
def isStandard : Required → Bool
  | context => true
  | _ => false

/-- A module root without the slashes at its end. -/
def trimRoot (root : String) : String :=
  String.ofList (Text.dropEnd '/' root.toList)

/-- The import path of a package, for a framework at a module root. -/
def importPath (root : String) (package : Required) : String :=
  if package.isStandard then package.path else trimRoot root ++ "/" ++ package.path

/-- The import paths of the four packages. -/
def importPaths (root : String) : List String :=
  all.map (importPath root)

end Required

end RpcStubs.Stub
