import RpcStubs.Proofs.Stub.Opening

/-!
# The root of the framework

The root is any text: it may be empty, consist of slashes or end in some. Slashes at its end do not
count (`importPath_append_slashes`). The paths of the four required packages end in different
elements, so they are different paths, and none of their reservations takes a name from another
(`required_paths_of_any_root`).
-/

namespace RpcStubs

/-- Separators behind a text are dropped like those at its own end. -/
theorem Text.dropEnd_append_replicate (separator : Char) (cs : List Char) (n : Nat) :
    dropEnd separator (cs ++ List.replicate n separator) = dropEnd separator cs := by
  have dropped : ∀ c ∈ List.replicate n separator, (c == separator) = true := by
    intro c member
    exact beq_iff_eq.mpr (List.eq_of_mem_replicate member)
  rw [dropEnd, List.reverse_append, List.reverse_replicate, List.dropWhile_append_of_pos dropped,
    dropEnd]

namespace Stub

namespace Required

/-- Slashes at the end of the root change no path. -/
theorem importPath_append_slashes (root : String) (slashes : Nat) (package : Required) :
    importPath (root ++ String.ofList (List.replicate slashes '/')) package =
      importPath root package := by
  have trimmed : trimRoot (root ++ String.ofList (List.replicate slashes '/')) = trimRoot root := by
    rw [trimRoot, String.toList_append, String.toList_ofList, Text.dropEnd_append_replicate,
      trimRoot]
  rw [importPath, trimmed, importPath]

end Required

/-- No path holds two names when the first type of a file is resolved. -/
theorem oneName_openingScope (options : Options) (file : SchemaFile) :
    (openingScope options file).OneName := by
  rw [openingScope_eq_after]
  exact ((ImportScope.ownNames_new file.importPath).reserves _).oneName

/-- For the path of a required package the name of the package is found. -/
theorem qualifier?_openingScope (options : Options) (file : SchemaFile) (package : Required) :
    (openingScope options file).qualifier? (package.importPath options.root) = some package.name :=
  (oneName_openingScope options file).qualifier?_eq_some_iff.mpr
    (find?_names_openingScope options file package)

/-- Whatever the root of the framework, the paths of the four required packages are different, end
in `server`, `client`, `protocol` and `context`, and do not change with slashes at the end of the
root. Once they are reserved in the new scope of a file, whatever its own path, the name found for
each of them is its last element. -/
theorem required_paths_of_any_root (options : Options) (file : SchemaFile) :
    let paths := Required.importPaths options.root
    paths.Nodup
      ∧ paths.map Go.lastElement = ["server", "client", "protocol", "context"]
      ∧ (∀ slashes, Required.importPaths
          (options.root ++ String.ofList (List.replicate slashes '/')) = paths)
      ∧ paths.map (openingScope options file).qualifier? =
        paths.map fun path => some (Go.lastElement path) := by
  refine ⟨Required.nodup_importPaths options.root, ?endings, ?slashes, ?qualifiers⟩
  case endings =>
    rw [Required.importPaths, List.map_map]
    exact List.map_congr_left fun package _ =>
      Required.lastElement_importPath options.root package
  case slashes =>
    intro slashes
    exact List.map_congr_left fun package _ =>
      Required.importPath_append_slashes options.root slashes package
  case qualifiers =>
    rw [Required.importPaths, List.map_map, List.map_map]
    apply List.map_congr_left
    intro package _
    rw [Function.comp_apply, Function.comp_apply, qualifier?_openingScope,
      Required.lastElement_importPath]

/-- A root of slashes is the same as none. -/
example : Required.importPaths "//" = ["/server", "/client", "/protocol", "context"] := by
  decide

end Stub

end RpcStubs
