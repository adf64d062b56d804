import RpcStubs.Go.ImportPath
import RpcStubs.Go.Package

/-!
# Descriptor sets

A descriptor set is what a schema compiler hands over: the files to make stubs for, with their
services and methods in the order of declaration, and the types that methods may refer to. A
reference to a type is an opaque key and is never printed.
-/

namespace RpcStubs

/-- A remote operation with the references of its two message types. -/
structure Method where
  name : String
  input : String
  output : String
deriving Repr, DecidableEq, Inhabited

/-- A named group of methods. -/
structure Service where
  name : String
  methods : List Method := []
deriving Repr, DecidableEq, Inhabited

/-- A compiled schema file and the Go package its code belongs to. -/
structure SchemaFile where
  name : String
  package : String := ""
  importPath : String := ""
  services : List Service := []
deriving Repr, DecidableEq, Inhabited

/-- A type as the schema compiler registers it under a reference. -/
structure TypeEntry where
  ref : String
  name : String
  package : String := ""
  importPath : String := ""
deriving Repr, DecidableEq, Inhabited

/-- The input of one run. -/
structure DescriptorSet where
  files : List SchemaFile := []
  types : List TypeEntry := []
deriving Repr, DecidableEq, Inhabited

namespace SchemaFile

/-- Whether the file declares a service. -/
def hasServices (file : SchemaFile) : Bool :=
  !file.services.isEmpty

/-- The file name without its directories and its last extension. -/
def stem (file : SchemaFile) : String :=
  String.ofList (Text.beforeLast '.' (Text.afterLast '/' file.name.toList))

/-- The Go package of the generated file: the one given, or else one made from the last element of
the import path, or else one made from the file name. -/
def goPackage (file : SchemaFile) : String :=
  if file.package ≠ "" then file.package
  else if Go.lastElement file.importPath ≠ "" then
    Go.packageName (Go.lastElement file.importPath)
  else Go.packageName file.stem

/-- The name without one `.proto` at its end. -/
def withoutExtension (name : String) : String :=
  if name.toList.drop (name.length - ".proto".length) = ".proto".toList then
    String.ofList (name.toList.take (name.length - ".proto".length))
  else name

/-- Where the code generated for a schema file of some name goes. -/
def outputPath (name : String) : String :=
  withoutExtension name ++ ".rpcx.go"

end SchemaFile

end RpcStubs
