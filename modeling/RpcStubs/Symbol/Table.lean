import RpcStubs.Descriptor.Basic
import RpcStubs.Sorted.Map

/-!
# Symbol tables

A symbol table says which Go type a reference stands for. Of several entries with one reference the
last one counts.
-/

namespace RpcStubs

/-- A Go type: its name, and the package it lives in. An empty import path stands for the package of
the file being generated. -/
structure GoType where
  name : String
  package : String
  importPath : String
deriving Repr, DecidableEq, Inhabited

namespace GoType

/-- The package name a type is printed with if nothing else holds that name. -/
def qualifier (type : GoType) : String :=
  if type.package ≠ "" then type.package
  else Go.packageName (Go.lastElement type.importPath)

end GoType

/-- The Go type behind an entry of a descriptor set. -/
def TypeEntry.goType (entry : TypeEntry) : GoType :=
  ⟨entry.name, entry.package, entry.importPath⟩

/-- The types that references stand for. -/
abbrev SymbolTable := SortedMap String GoType

namespace SymbolTable

/-- The table with an entry, over an earlier one of the same reference. -/
def define (table : SymbolTable) (entry : TypeEntry) : SymbolTable :=
  table.insert entry.ref entry.goType

/-- The table of some entries. -/
def ofEntries (entries : List TypeEntry) : SymbolTable :=
  entries.foldl define SortedMap.empty

theorem find?_define (table : SymbolTable) (entry : TypeEntry) (ref : String) :
    (table.define entry).find? ref =
      if ref = entry.ref then some entry.goType else table.find? ref :=
  SortedMap.find?_insert ..

end SymbolTable

/-- The symbol table of a descriptor set. -/
def DescriptorSet.symbolTable (set : DescriptorSet) : SymbolTable :=
  SymbolTable.ofEntries set.types

end RpcStubs
