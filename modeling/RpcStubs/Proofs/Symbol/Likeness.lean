import RpcStubs.Symbol.Scope

/-!
# Scopes that print alike

What a scope prints for a type depends on its home and its names, never on the references it has
seen. Two scopes that differ in their used references alone therefore print alike, and still do so
after each has resolved a reference of its own to one type (`PrintsLike.resolve`).
-/

namespace RpcStubs.ImportScope

/-- Two scopes agree in everything but the references they have used. -/
structure PrintsLike (scope other : ImportScope) : Prop where
  home : other.home = scope.home
  imports : other.imports = scope.imports
  names : other.names = scope.names

namespace PrintsLike

theorem refl (scope : ImportScope) : scope.PrintsLike scope :=
  ⟨rfl, rfl, rfl⟩

variable {scope other : ImportScope}

theorem isLocal (like : scope.PrintsLike other) (type : GoType) :
    other.isLocal type = scope.isLocal type := by
  rw [ImportScope.isLocal, ImportScope.isLocal, like.home]

theorem qualifier? (like : scope.PrintsLike other) (path : String) :
    other.qualifier? path = scope.qualifier? path := by
  rw [ImportScope.qualifier?, ImportScope.qualifier?, like.names]

theorem freeName (like : scope.PrintsLike other) (base : String) :
    other.freeName base = scope.freeName base := by
  rw [ImportScope.freeName, ImportScope.freeName, like.names]

theorem bind (like : scope.PrintsLike other) (type : GoType) :
    (other.bind type).1 = (scope.bind type).1
      ∧ (scope.bind type).2.PrintsLike (other.bind type).2 := by
  simp only [ImportScope.bind, like.qualifier?, like.freeName]
  cases scope.qualifier? type.importPath with
  | some name => exact ⟨rfl, like⟩
  | none => exact ⟨rfl, like.home, like.imports, by simp only [like.names]⟩

theorem print (like : scope.PrintsLike other) (type : GoType) :
    (other.print type).1 = (scope.print type).1
      ∧ (scope.print type).2.PrintsLike (other.print type).2 := by
  rcases like.bind type with ⟨sameImport, alike⟩
  simp only [ImportScope.print, like.isLocal, sameImport]
  cases scope.isLocal type with
  | true => exact ⟨rfl, like⟩
  | false => exact ⟨rfl, alike⟩

theorem record (like : scope.PrintsLike other) (ref otherRef : String)
    (origin : Option Go.Import) :
    (scope.record ref origin).PrintsLike (other.record otherRef origin) where
  home := like.home
  imports := by simp only [ImportScope.record, like.imports]
  names := like.names

/-- References that two tables hold the same type for are printed in the same way, and scopes that
print alike still do so afterwards. -/
theorem resolve (like : scope.PrintsLike other) {table otherTable : SymbolTable}
    {ref otherRef : String} {type : GoType} (found : table.find? ref = some type)
    (otherFound : otherTable.find? otherRef = some type) :
    ∃ printed later otherLater, scope.resolve table ref = .ok (printed, later)
      ∧ other.resolve otherTable otherRef = .ok (printed, otherLater)
      ∧ later.PrintsLike otherLater := by
  rcases like.print type with ⟨samePrinted, alike⟩
  refine ⟨(scope.print type).1, (scope.print type).2.record ref (scope.print type).1.origin,
    (other.print type).2.record otherRef (scope.print type).1.origin, ?first, ?second, ?alike⟩
  case first => simp only [ImportScope.resolve, found]
  case second => simp only [ImportScope.resolve, otherFound, samePrinted]
  case alike => exact alike.record ref otherRef _

end PrintsLike

end RpcStubs.ImportScope
