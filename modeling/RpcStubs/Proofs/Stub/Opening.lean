import RpcStubs.Proofs.Symbol.Qualifier
import RpcStubs.Stub.Plugin

/-!
# The scope a file starts with

Whatever the root of the framework, the paths of the four required packages end in their names, so
reserving them gives each the name it has in the code of every stub.
-/

namespace RpcStubs

/-- Behind its last separator a text has no other. -/
theorem Text.afterLast_append_cons {separator : Char} {front back : List Char}
    (absent : separator ∉ back) : afterLast separator (front ++ separator :: back) = back := by
  have kept : ∀ c ∈ back.reverse, (c != separator) = true := by
    intro c member
    exact bne_iff_ne.mpr fun same => absent (same ▸ List.mem_reverse.mp member)
  rw [afterLast, List.reverse_append, List.reverse_cons, List.append_assoc,
    List.takeWhile_append_of_pos kept]
  simp

namespace Stub.Required

/-- The path of a required package ends in the name of the package. -/
theorem lastElement_importPath (root : String) (package : Required) :
    Go.lastElement (importPath root package) = package.name := by
  have below : ∀ name : String, '/' ∉ name.toList →
      Go.lastElement (trimRoot root ++ "/" ++ name) = name := by
    intro name absent
    have slash : "/".toList = ['/'] := rfl
    rw [Go.lastElement, String.toList_append, String.toList_append, slash, List.append_assoc,
      List.singleton_append, Text.afterLast_append_cons absent, String.ofList_toList]
  cases package with
  | context => exact (by decide : Go.lastElement "context" = "context")
  | server => exact below "server" (by decide)
  | client => exact below "client" (by decide)
  | protocol => exact below "protocol" (by decide)

/-- No two required packages have paths with the same last element. -/
theorem pairwise_lastElement_importPaths (root : String) :
    (importPaths root).Pairwise fun first second =>
      Go.lastElement first ≠ Go.lastElement second := by
  rw [importPaths, List.pairwise_map]
  simp only [lastElement_importPath]
  decide

theorem nodup_importPaths (root : String) : (importPaths root).Nodup :=
  (pairwise_lastElement_importPaths root).imp fun different same =>
    different (congrArg Go.lastElement same)

theorem importPath_mem_importPaths (root : String) (package : Required) :
    importPath root package ∈ importPaths root :=
  List.mem_map_of_mem (mem_all package)

end Stub.Required

namespace ImportScope

/-- Reserving paths with different last elements gives each path its last element, where these were
free. -/
theorem find?_names_after_reserves {scope : ImportScope} {paths : List String}
    (distinct : paths.Pairwise fun first second => Go.lastElement first ≠ Go.lastElement second)
    (free : ∀ path ∈ paths, scope.names.find? (Go.lastElement path) = none)
    {path : String} (member : path ∈ paths) :
    (scope.after (paths.map .reserve)).names.find? (Go.lastElement path) = some path := by
  induction paths generalizing scope with
  | nil => cases member
  | cons first rest ih =>
      rcases List.pairwise_cons.mp distinct with ⟨apart, restDistinct⟩
      rcases List.mem_cons.mp member with rfl | later
      · apply (growsTo_after (scope.reserve path) _).names
        rw [find?_names_reserve, if_pos rfl, free path List.mem_cons_self, Option.getD_none]
      · have stillFree : ∀ other ∈ rest,
            (scope.reserve first).names.find? (Go.lastElement other) = none := by
          intro other inRest
          rw [find?_names_reserve, if_neg (apart other inRest).symm]
          exact free other (List.mem_cons_of_mem _ inRest)
        exact ih restDistinct stillFree later

/-- Reservations bind names to no other paths than those reserved. -/
theorem mem_of_find?_names_after_reserves {scope : ImportScope} {paths : List String}
    {name path : String}
    (bound : (scope.after (paths.map .reserve)).names.find? name = some path) :
    path ∈ paths ∨ scope.names.find? name = some path := by
  induction paths generalizing scope with
  | nil => exact .inr bound
  | cons first rest ih =>
      rcases ih bound with inRest | after
      · exact .inl (List.mem_cons_of_mem _ inRest)
      · rcases names_reserve_cases after with before | ⟨_, rfl⟩
        · exact .inr before
        · exact .inl List.mem_cons_self

end ImportScope

namespace Stub

theorem openingScope_eq_after (options : Options) (file : SchemaFile) :
    openingScope options file =
      (ImportScope.new file.importPath).after
        ((Required.importPaths options.root).map .reserve) := by
  rw [openingScope, ImportScope.after, List.foldl_map]
  rfl

/-- Each required package holds its own name when the first type of a file is resolved. -/
theorem find?_names_openingScope (options : Options) (file : SchemaFile) (package : Required) :
    (openingScope options file).names.find? package.name =
      some (package.importPath options.root) := by
  rw [openingScope_eq_after, ← Required.lastElement_importPath options.root package]
  exact ImportScope.find?_names_after_reserves
    (Required.pairwise_lastElement_importPaths options.root) (fun _ _ => rfl)
    (Required.importPath_mem_importPaths options.root package)

theorem home_openingScope (options : Options) (file : SchemaFile) :
    (openingScope options file).home = file.importPath := by
  rw [openingScope_eq_after]
  exact ImportScope.home_after _ _

/-- A name that is held when the first type of a file is resolved is that of a required package, and
is held by the path of this package. -/
theorem exists_required_of_find?_names_openingScope {options : Options} {file : SchemaFile}
    {name path : String} (bound : (openingScope options file).names.find? name = some path) :
    ∃ package : Required, name = package.name ∧ path = package.importPath options.root := by
  rw [openingScope_eq_after] at bound
  have own := (ImportScope.ownNames_new file.importPath).reserves _ _ _ bound
  rcases ImportScope.mem_of_find?_names_after_reserves bound with reserved | before
  · rcases List.mem_map.mp reserved with ⟨package, _, rfl⟩
    exact ⟨package, own.trans (Required.lastElement_importPath options.root package), rfl⟩
  · cases before

end Stub

end RpcStubs
