import RpcStubs.Proofs.Stub.Resolved

/-!
# Files with further services

Services are resolved in the order of their declaration, and a scope takes nothing back. A file with
further services behind its own is therefore resolved as the file alone is, and then on from the
scope that this leaves: its stubs begin with those of the file alone, and they record at least the
same imports (`generate_of_extension`).
-/

namespace RpcStubs

/-- The file with further services behind its own. -/
def SchemaFile.extend (file : SchemaFile) (more : List Service) : SchemaFile :=
  { file with services := file.services ++ more }

namespace Stub

/-- Services in front of others are resolved as they are alone, and the others from the scope that
they leave. -/
theorem resolveServices_append_eq_ok_iff {table : SymbolTable} {file : String}
    {services more : List Service} {scope final : ImportScope} {resolved : List ResolvedService} :
    (resolveServices table file (services ++ more) scope).outcome = .ok (resolved, final) ↔
      ∃ first middle others,
        (resolveServices table file services scope).outcome = .ok (first, middle)
          ∧ (resolveServices table file more middle).outcome = .ok (others, final)
          ∧ resolved = first ++ others := by
  simp only [resolveServices_eq_thread]
  exact Log.Journaled.outcome_thread_append_eq_ok_iff

/-- Resolving services only lets a scope grow. -/
theorem growsTo_of_resolveServices {table : SymbolTable} {file : String} {services : List Service}
    {scope later : ImportScope} {resolved : List ResolvedService}
    (ok : (resolveServices table file services scope).outcome = .ok (resolved, later)) :
    scope.GrowsTo later := by
  rw [(resolveServices_ok ok).1]
  exact ImportScope.growsTo_after scope _

theorem fileFragments_append (options : Options) (file : String)
    (services more : List ResolvedService) :
    fileFragments options file (services ++ more) =
      fileFragments options file services ++ more.flatMap (serviceFragments options) := by
  rw [fileFragments, List.flatMap_append, ← List.cons_append, ← fileFragments]

variable {options : Options} {file : SchemaFile} {table : SymbolTable} {more : List Service}
  {extended : FileStubs}

/-- Where stubs are made for a file with further services behind its own, stubs are also made for
the file alone. These are the first fragments of the others, all their imports are among those of
the others, and both need the same packages. -/
theorem generate_of_extension (services : file.hasServices = true)
    (made : ((plugin options).generate (file.extend more) table).outcome = .ok (some extended)) :
    ∃ stubs, ((plugin options).generate file table).outcome = .ok (some stubs)
      ∧ stubs.fragments <+: extended.fragments
      ∧ SortedSet.toList stubs.imports ⊆ SortedSet.toList extended.imports
      ∧ stubs.packages = extended.packages := by
  rcases generate_eq_ok_some_iff.mp made with ⟨_, resolved, final, resolvedOk, rfl⟩
  rcases resolveServices_append_eq_ok_iff.mp resolvedOk with
    ⟨first, middle, others, firstOk, othersOk, rfl⟩
  refine ⟨_, generate_eq_ok_some_iff.mpr ⟨services, first, middle, firstOk, rfl⟩, ?fragments,
    ?imports, rfl⟩
  case fragments =>
    exact ⟨_, (fileFragments_append options file.name first others).symm⟩
  case imports =>
    intro item recorded
    exact (growsTo_of_resolveServices othersOk).imports item recorded

/-- A service whose types come from another package of the same name leaves the stubs in front of it
as they are, and so does a second service of one name. -/
theorem generate_of_extension_of_shared_names :
    let file : SchemaFile :=
      { name := "shop.proto", services := [⟨"Shop", [⟨"Buy", "old", "old"⟩]⟩] }
    let more : List Service := [⟨"Till", [⟨"Pay", "new", "old"⟩]⟩, ⟨"Shop", []⟩]
    let table := SymbolTable.ofEntries
      [⟨"old", "Item", "item", "shop/v1/item"⟩, ⟨"new", "Item", "item", "shop/v2/item"⟩]
    file.hasServices = true ∧ ∃ stubs extended,
      ((plugin {}).generate (file.extend more) table).outcome = .ok (some extended)
        ∧ ((plugin {}).generate file table).outcome = .ok (some stubs)
        ∧ stubs.fragments <+: extended.fragments
        ∧ SortedSet.toList stubs.imports ⊆ SortedSet.toList extended.imports := by
  intro file more table
  have complete : (file.extend more).hasServices = true
      ∧ ∀ mention ∈ (file.extend more).mentions,
        SortedMap.contains table mention.ref = true := by
    decide
  rcases exists_generate_eq_ok_iff.mpr complete with ⟨extended, made⟩
  have services : file.hasServices = true := rfl
  rcases generate_of_extension services made with ⟨stubs, alone, fragments, imports, _⟩
  exact ⟨services, stubs, extended, made, alone, fragments, imports⟩

end Stub

end RpcStubs
