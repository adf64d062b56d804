import RpcStubs.Proofs.Stub.Assembly
import RpcStubs.Proofs.Stub.Opening
import RpcStubs.Proofs.Stub.Resolved

/-!
# Imports behind printed types

The scope of a file ends in the names that the generated file binds: a recorded import is declared
with its name, and a required package without one has kept its own. Every qualifier in the code
therefore stands for the path that its type lives in (`imports_sound`).
-/

namespace RpcStubs

open Log (Journaled)

/-- Code of a file at home refers to a reference by the bare name of its type if the type is at home,
and else through a qualifier under which the file imports the path of the type. -/
def Go.File.RefersTo (goFile : Go.File) (home : String) (table : SymbolTable) (ref : String)
    (printed : ResolvedType) : Prop :=
  ∃ type, table.find? ref = some type
    ∧ (type.importPath = "" ∨ type.importPath = home → printed.name = type.name)
    ∧ (type.importPath ≠ "" → type.importPath ≠ home →
      ∃ qualifier, printed.name = qualifier ++ "." ++ type.name
        ∧ goFile.Binds type.importPath qualifier)

namespace Stub

/-- The scope of a file when all its types are resolved. -/
def closingScope (options : Options) (file : SchemaFile) (table : SymbolTable) : ImportScope :=
  (ImportScope.new file.importPath).after
    (ImportScope.phases table (Required.importPaths options.root)
      (file.mentions.map Mention.ref))

section Closing

variable (options : Options) (file : SchemaFile) (table : SymbolTable)

theorem closingScope_eq_after :
    closingScope options file table =
      (openingScope options file).after (resolutions table file.mentions) := by
  rw [openingScope_eq_after, closingScope, ImportScope.phases, ImportScope.after_append]
  rfl

theorem home_closingScope : (closingScope options file table).home = file.importPath :=
  ImportScope.home_after _ _

theorem oneName_closingScope : (closingScope options file table).OneName :=
  ImportScope.oneName_phases _ _ _ _

/-- Each required package still holds its own name when all types of a file are resolved. -/
theorem find?_names_closingScope (package : Required) :
    (closingScope options file table).names.find? package.name =
      some (package.importPath options.root) := by
  rw [closingScope_eq_after]
  exact (ImportScope.growsTo_after _ _).names _ _ (find?_names_openingScope options file package)

end Closing

variable {options : Options} {file : SchemaFile} {table : SymbolTable} {stubs : FileStubs}

/-- Stubs are made of the services as they were resolved, the required packages, and the imports of
the scope in the end. -/
theorem exists_resolved_of_generate
    (made : ((plugin options).generate file table).outcome = .ok (some stubs)) :
    ∃ services,
      stubs = {
        fragments := fileFragments options file.name services
        packages := Required.importPaths options.root
        imports := (closingScope options file table).imports }
      ∧ List.Forall₂ (ServiceResolved ((closingScope options file table).BacksRef table))
        file.services services := by
  rcases generate_eq_ok_some_iff.mp made with ⟨_, services, scope, resolvedOk, filled⟩
  rcases resolveServices_ok resolvedOk with ⟨scopeEq, resolved⟩
  obtain rfl : scope = closingScope options file table := by
    rw [closingScope_eq_after, scopeEq, SchemaFile.mentions]
  exact ⟨services, filled, resolved⟩

section Generated

variable (made : ((plugin options).generate file table).outcome = .ok (some stubs))

include made

theorem imports_of_generate : stubs.imports = (closingScope options file table).imports := by
  rcases exists_resolved_of_generate made with ⟨_, rfl, _⟩
  rfl

theorem packages_of_generate : stubs.packages = Required.importPaths options.root := by
  rcases exists_resolved_of_generate made with ⟨_, rfl, _⟩
  rfl

/-- An import that the stubs record has its name bound to its path in the end, which is not a path
at home. -/
theorem find?_names_of_recorded {item : Go.Import}
    (recorded : item ∈ SortedSet.toList stubs.imports) :
    (closingScope options file table).names.find? item.name = some item.path
      ∧ item.path ≠ "" ∧ item.path ≠ file.importPath := by
  rw [imports_of_generate made] at recorded
  rcases ImportScope.type_of_mem_imports_after_new recorded with
      ⟨bound, _, _, _, _, _, _, _, named, away⟩
  exact ⟨bound, named, away⟩

/-- No two recorded imports share a path. -/
theorem pairwise_path_of_generate :
    (SortedSet.toList stubs.imports).Pairwise fun first second => first.path ≠ second.path := by
  rw [imports_of_generate made]
  exact (ImportScope.pairwise_imports_after_new (oneName_closingScope options file table)).imp
    fun apart => apart.1

variable (package : String)

/-- The generated file imports a recorded path under the recorded name. -/
theorem binds_of_recorded {path name : String}
    (recorded : ⟨path, name⟩ ∈ SortedSet.toList stubs.imports) :
    (stubs.assemble package).Binds path name :=
  (FileStubs.binds_assemble_iff (pairwise_path_of_generate made)).mpr (.inl recorded)

/-- Every name that the generated file binds is bound to the same path in the closing scope. -/
theorem find?_names_of_binds {path name : String}
    (binds : (stubs.assemble package).Binds path name) :
    (closingScope options file table).names.find? name = some path := by
  rcases (FileStubs.binds_assemble_iff (pairwise_path_of_generate made)).mp binds with
    recorded | ⟨_, required, rfl⟩
  · exact (find?_names_of_recorded made recorded).1
  · rw [packages_of_generate made] at required
    rcases List.mem_map.mp required with ⟨needed, _, rfl⟩
    rw [Required.lastElement_importPath]
    exact find?_names_closingScope options file table needed

/-- A required package is imported under its own name, also where types of it are printed. -/
theorem binds_required (needed : Required) :
    (stubs.assemble package).Binds (needed.importPath options.root) needed.name := by
  rw [FileStubs.binds_assemble_iff (pairwise_path_of_generate made)]
  by_cases recorded : ∃ item ∈ SortedSet.toList stubs.imports,
      item.path = needed.importPath options.root
  · rcases recorded with ⟨⟨path, name⟩, member, rfl⟩
    have bound := (find?_names_of_recorded made member).1
    have own := find?_names_closingScope options file table needed
    have same := oneName_closingScope options file table _ _ _ bound own
    exact .inl (same ▸ member)
  · have absent : ∀ item ∈ SortedSet.toList stubs.imports,
        item.path ≠ needed.importPath options.root :=
      fun item member same => recorded ⟨item, member, same⟩
    refine .inr ⟨absent, ?_, ?_⟩
    · rw [packages_of_generate made]
      exact Required.importPath_mem_importPaths options.root needed
    · exact (Required.lastElement_importPath options.root needed).symm

/-- What the closing scope backs, the generated file refers to. -/
theorem refersTo_of_backsRef {ref : String} {printed : ResolvedType}
    (backed : (closingScope options file table).BacksRef table ref printed) :
    (stubs.assemble package).RefersTo file.importPath table ref printed := by
  rcases backed with ⟨type, found, backs⟩
  refine ⟨type, found, ?_, ?_⟩
  · intro atHome
    rw [← home_closingScope options file table] at atHome
    rw [backs.eq_bare atHome]
  · intro named away
    rw [← home_closingScope options file table] at away
    rcases backs.exists_qualifier named away with ⟨qualifier, rfl, _, recorded⟩
    rw [← imports_of_generate made] at recorded
    exact ⟨qualifier, rfl, binds_of_recorded made package recorded⟩

end Generated

/-- Stubs that were made for a file end up in a generated file that prints both types of every method
by names it can stand for: bare names for types at home, and for all others qualifiers under which
it imports their paths. It imports no two paths under one name and each required package under its
own name, and the stubs record no import of the file itself or of an empty path. -/
theorem imports_sound
    (made : ((plugin options).generate file table).outcome = .ok (some stubs)) (package : String) :
    let goFile := stubs.assemble package
    (∃ services, goFile.body = (fileFragments options file.name services).map Fragment.text
      ∧ List.Forall₂ (ServiceResolved (goFile.RefersTo file.importPath table))
        file.services services) ∧
    (∀ first second name, goFile.Binds first name → goFile.Binds second name → first = second) ∧
    (∀ needed : Required, goFile.Binds (needed.importPath options.root) needed.name) ∧
    (∀ item ∈ SortedSet.toList stubs.imports, item.path ≠ "" ∧ item.path ≠ file.importPath) := by
  intro goFile
  refine ⟨?printed, ?onePath, binds_required made package, ?away⟩
  case printed =>
    rcases exists_resolved_of_generate made with ⟨services, filled, resolved⟩
    refine ⟨services, ?_, resolved.imp fun service record named => ?_⟩
    · simp only [goFile, FileStubs.body_assemble, filled]
    · exact named.imp fun ref printed => refersTo_of_backsRef made package
  case onePath =>
    intro first second name firstBound secondBound
    have firstHolds := find?_names_of_binds made package firstBound
    have secondHolds := find?_names_of_binds made package secondBound
    exact Option.some.inj (firstHolds.symm.trans secondHolds)
  case away =>
    intro item recorded
    exact (find?_names_of_recorded made recorded).2

/-- A file may print types of a required package and of two packages with one name: it imports the
first under its own name and no two of them under the same. -/
theorem imports_sound_of_shared_names :
    let file : SchemaFile := {
      name := "shop.proto"
      importPath := "shop/api"
      services := [⟨"Shop", [⟨"Buy", "old", "new"⟩, ⟨"Dial", "own", "client"⟩]⟩] }
    let table := SymbolTable.ofEntries
      [⟨"old", "Item", "item", "shop/v1/item"⟩, ⟨"new", "Item", "item", "shop/v2/item"⟩,
        ⟨"own", "Order", "api", "shop/api"⟩, ⟨"client", "Option", "client", "rpc/client"⟩]
    ∃ stubs, ((plugin { root := "rpc/" }).generate file table).outcome = .ok (some stubs)
      ∧ (stubs.assemble "api").Binds "rpc/client" "client"
      ∧ ∀ name, (stubs.assemble "api").Binds "shop/v1/item" name →
        ¬ (stubs.assemble "api").Binds "shop/v2/item" name := by
  intro file table
  have complete : file.hasServices = true
      ∧ ∀ mention ∈ file.mentions, SortedMap.contains table mention.ref = true := by
    decide
  rcases exists_generate_eq_ok_iff.mpr complete with ⟨stubs, made⟩
  rcases imports_sound made "api" with ⟨_, onePath, required, _⟩
  refine ⟨stubs, made, required .client, ?_⟩
  intro name first second
  exact absurd (onePath _ _ _ first second) (by decide)

end Stub

end RpcStubs
