import RpcStubs.Go.Import
import RpcStubs.Sorted.Set
import RpcStubs.Symbol.Table

/-!
# Import scopes

While a file is generated, its scope keeps which package names are taken and by which import path,
which references were resolved and which imports they need. A path that is new to the scope gets the
package name of its type if it is free, and else that name with the first number that makes it free.
-/

namespace RpcStubs

/-- What the resolution of references in one file has led to so far. -/
structure ImportScope where
  /-- The import path of the file itself; its types need no qualifier. -/
  home : String
  /-- The references resolved so far. -/
  used : SortedSet String
  /-- The imports that the resolved types need. -/
  imports : SortedSet Go.Import
  /-- The package names taken, each with the path that holds it. -/
  names : SortedMap String String
deriving DecidableEq, Inhabited

/-- A type as it is printed, with the import that the printed name depends on. -/
structure ResolvedType where
  name : String
  origin : Option Go.Import
deriving Repr, DecidableEq, Inhabited

/-- A reference that the symbol table does not hold. -/
structure MissingSymbol where
  ref : String
deriving Repr, DecidableEq, Inhabited

namespace ImportScope

/-- The scope of a file at an import path, with nothing taken. -/
def new (home : String) : ImportScope :=
  ⟨home, SortedMap.empty, SortedMap.empty, SortedMap.empty⟩

/-- Give a path its last element as name, unless that name is taken. -/
def reserve (scope : ImportScope) (path : String) : ImportScope :=
  { scope with names := scope.names.insertIfNew (Go.lastElement path) path }

/-- The first name, in order, that a path holds. -/
def qualifier? (scope : ImportScope) (path : String) : Option String :=
  scope.names.firstKey? (· == path)

/-- Whether a reference was resolved in this scope. -/
def isUsed (scope : ImportScope) (ref : String) : Bool :=
  scope.used.contains ref

/-- Whether a type is printed without a qualifier. -/
def isLocal (scope : ImportScope) (type : GoType) : Bool :=
  type.importPath == "" || type.importPath == scope.home

/-- A package name with a number behind it; the number zero is not written. -/
def numbered (base : String) (n : Nat) : String :=
  if n = 0 then base else base ++ toString n

/-- The first of `base`, `base1`, `base2`, … that is free. Among one more candidates than there are
names taken, one is free. -/
def freeName (scope : ImportScope) (base : String) : String :=
  (((List.range (scope.names.size + 1)).map (numbered base)).find? fun name =>
    !scope.names.contains name).getD base

/-- The import of a type from another package, and the scope in which its path holds a name. -/
def bind (scope : ImportScope) (type : GoType) : Go.Import × ImportScope :=
  match scope.qualifier? type.importPath with
  | some name => (⟨type.importPath, name⟩, scope)
  | none =>
      let name := scope.freeName type.qualifier
      (⟨type.importPath, name⟩, { scope with names := scope.names.insert name type.importPath })

/-- Note that a reference was resolved, and the import it needs. -/
def record (scope : ImportScope) (ref : String) (origin : Option Go.Import) : ImportScope :=
  { scope with
    used := scope.used.add ref
    imports := origin.elim scope.imports scope.imports.add }

/-- The printed form of a type, and the scope in which it is printed. -/
def print (scope : ImportScope) (type : GoType) : ResolvedType × ImportScope :=
  if scope.isLocal type then (⟨type.name, none⟩, scope)
  else
    let bound := scope.bind type
    (⟨bound.1.name ++ "." ++ type.name, some bound.1⟩, bound.2)

/-- Resolve a reference. One that the table does not hold leaves no scope behind. -/
def resolve (scope : ImportScope) (table : SymbolTable) (ref : String) :
    Except MissingSymbol (ResolvedType × ImportScope) :=
  match table.find? ref with
  | none => .error ⟨ref⟩
  | some type =>
      let printed := scope.print type
      .ok (printed.1, printed.2.record ref printed.1.origin)

/-- The name that printing a type newly takes, if it is not the one the type asks for. -/
def renaming? (scope : ImportScope) (type : GoType) : Option Go.Import :=
  if scope.isLocal type || (scope.qualifier? type.importPath).isSome then none
  else
    let item := (scope.bind type).1
    if item.name = type.qualifier then none else some item

theorem resolve_eq_error_iff {scope : ImportScope} {table : SymbolTable} {ref : String}
    {missing : MissingSymbol} :
    scope.resolve table ref = .error missing ↔ table.find? ref = none ∧ missing = ⟨ref⟩ := by
  unfold resolve
  split
  next none => simp [none, eq_comm]
  next type found => simp [found]

end ImportScope

end RpcStubs
