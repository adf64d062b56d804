import RpcStubs.Proofs.Stub.Imports

/-!
# Packages that stubs declare

Stubs declare the packages that their code always needs, and then the imports of its types. Neither
list holds a path twice, but types may live in a package that is needed anyway, and then both lists
hold its path. How often each path is declared follows from the mentions of the file
(`count_declaredPaths`), and so does where all of them are declared once (`declared_once_iff`).
-/

namespace RpcStubs.Stub

/-! ## Declarations among the instructions -/

/-- The paths that stubs declare to the file they are written to, in order. -/
def FileStubs.declaredPaths (stubs : FileStubs) : List String :=
  stubs.instructions.filterMap Instruction.path?

/-! ## Paths of types -/

/-- The paths away from home in which the types that a file mentions live. -/
def foreignPaths (file : SchemaFile) (table : SymbolTable) : List String :=
  (((file.mentions.map Mention.ref).filterMap table.find?).map GoType.importPath).filter
    fun path => path ≠ "" ∧ path ≠ file.importPath

variable {options : Options} {file : SchemaFile} {table : SymbolTable} {stubs : FileStubs}

theorem mem_foreignPaths_iff {path : String} :
    path ∈ foreignPaths file table ↔
      ∃ mention ∈ file.mentions, ∃ type, table.find? mention.ref = some type
        ∧ type.importPath = path ∧ path ≠ "" ∧ path ≠ file.importPath := by
  simp only [foreignPaths, List.mem_filter, List.mem_map, List.mem_filterMap, decide_eq_true_eq]
  constructor
  · rintro ⟨⟨type, ⟨ref, ⟨mention, member, rfl⟩, found⟩, lives⟩, away⟩
    exact ⟨mention, member, type, found, lives, away⟩
  · rintro ⟨mention, member, type, found, lives, away⟩
    exact ⟨⟨type, ⟨mention.ref, ⟨mention, member, rfl⟩, found⟩, lives⟩, away⟩

section Generated

variable (made : ((plugin options).generate file table).outcome = .ok (some stubs))

include made

/-- Stubs record an import for each path away from home in which a mentioned type lives, and for no
other path. -/
theorem mem_map_path_imports_iff {path : String} :
    path ∈ (SortedSet.toList stubs.imports).map Go.Import.path ↔
      path ∈ foreignPaths file table := by
  rw [List.mem_map, mem_foreignPaths_iff, imports_of_generate made]
  constructor
  · rintro ⟨item, recorded, rfl⟩
    rcases ImportScope.type_of_mem_imports_after_new recorded with
      ⟨_, other, ref, type, printed, step, found, lives, away⟩
    have called := ImportScope.call_mem_of_mem_trace step
    rcases ImportScope.resolve_mem_phases_iff.mp called with ⟨rfl, mentioned⟩
    rcases List.mem_map.mp mentioned with ⟨mention, member, rfl⟩
    exact ⟨mention, member, type, found, lives, away⟩
  · rintro ⟨mention, member, type, found, rfl, named, away⟩
    have called : .resolve table mention.ref ∈ ImportScope.phases table
        (Required.importPaths options.root) (file.mentions.map Mention.ref) :=
      ImportScope.resolve_mem_phases_iff.mpr ⟨rfl, List.mem_map_of_mem member⟩
    obtain ⟨printed, step⟩ : ∃ printed, ⟨.resolve table mention.ref, .resolved printed⟩ ∈
        (ImportScope.new file.importPath).trace (ImportScope.phases table
          (Required.importPaths options.root) (file.mentions.map Mention.ref)) :=
      ImportScope.exists_step_of_mem called found
    rcases ImportScope.backs_of_mem_trace step with ⟨held, heldFound, backs⟩
    obtain rfl := Option.some.inj (found.symm.trans heldFound)
    rcases backs.exists_qualifier named (by simpa using away) with ⟨name, _, _, recorded⟩
    exact ⟨_, recorded, rfl⟩

/-- A path is declared once for a required package, and once more if types live there. -/
theorem count_declaredPaths (path : String) :
    stubs.declaredPaths.count path =
      (if path ∈ Required.importPaths options.root then 1 else 0)
        + (if path ∈ foreignPaths file table then 1 else 0) := by
  have distinct : ((SortedSet.toList stubs.imports).map Go.Import.path).Nodup :=
    List.pairwise_map.mpr (pairwise_path_of_generate made)
  rw [FileStubs.declaredPaths, FileStubs.path?_instructions, List.count_append,
    packages_of_generate made, (Required.nodup_importPaths options.root).count, distinct.count]
  simp only [mem_map_path_imports_iff made]

end Generated

/-- The paths that stubs declare are those of the four required packages and those away from home in
which types of the file live, the ones as often as they are in one of the two groups or both. So
each required package is declared exactly once and no path is declared twice exactly where no
mentioned type lives in a required package away from home. -/
theorem declared_once_iff
    (made : ((plugin options).generate file table).outcome = .ok (some stubs)) :
    (∀ path, stubs.declaredPaths.count path =
      (if path ∈ Required.importPaths options.root then 1 else 0)
        + (if path ∈ foreignPaths file table then 1 else 0)) ∧
    (((∀ needed : Required, stubs.declaredPaths.count (needed.importPath options.root) = 1)
        ∧ stubs.declaredPaths.Nodup) ↔
      ∀ needed : Required, needed.importPath options.root ∉ foreignPaths file table) := by
  have count := count_declaredPaths made
  have required (needed : Required) :
      needed.importPath options.root ∈ Required.importPaths options.root :=
    Required.importPath_mem_importPaths options.root needed
  refine ⟨count, ?once, ?apart⟩
  case once =>
    rintro ⟨once, _⟩ needed foreign
    have twice := count (needed.importPath options.root)
    rw [once needed, if_pos (required needed), if_pos foreign] at twice
    contradiction
  case apart =>
    intro apart
    constructor
    · intro needed
      rw [count, if_pos (required needed), if_neg (apart needed)]
    · rw [List.nodup_iff_count_le_one]
      intro path
      rw [count]
      by_cases needed : path ∈ Required.importPaths options.root
      · rcases List.mem_map.mp needed with ⟨package, _, rfl⟩
        simp [needed, apart package]
      · rw [if_neg needed]
        split <;> omega

/-- A package `client` of other origin is declared beside the required one, and types at home need no
declaration, though the file lives in a required package. -/
theorem declared_once_of_file_in_required_package :
    let options : Options := { root := "rpc/" }
    let file : SchemaFile := {
      name := "shop.proto"
      importPath := "rpc/client"
      services := [⟨"Shop", [⟨"Buy", "own", "shop"⟩]⟩] }
    let table := SymbolTable.ofEntries
      [⟨"own", "Item", "client", "rpc/client"⟩, ⟨"shop", "Slip", "client", "shop/client"⟩]
    ∃ stubs, ((plugin options).generate file table).outcome = .ok (some stubs)
      ∧ (∀ needed : Required, needed.importPath options.root ∉ foreignPaths file table)
      ∧ stubs.declaredPaths.count "rpc/client" = 1
      ∧ stubs.declaredPaths.count "shop/client" = 1
      ∧ stubs.declaredPaths.Nodup := by
  intro options file table
  have complete : file.hasServices = true
      ∧ ∀ mention ∈ file.mentions, SortedMap.contains table mention.ref = true := by
    decide
  have apart : ∀ needed : Required, needed.importPath options.root ∉ foreignPaths file table := by
    intro needed
    cases needed <;> decide
  rcases exists_generate_eq_ok_iff.mpr complete with ⟨stubs, made⟩
  rcases declared_once_iff made with ⟨count, once⟩
  refine ⟨stubs, made, apart, ?_, ?_, (once.mpr apart).2⟩
  · exact (count _).trans (by decide)
  · exact (count _).trans (by decide)

/-- A type of the framework's own package `client` has the path of this package declared twice. -/
theorem declared_twice_of_framework_type :
    let options : Options := {}
    let file : SchemaFile :=
      { name := "shop.proto", services := [⟨"Shop", [⟨"Dial", "option", "option"⟩]⟩] }
    let table := SymbolTable.ofEntries
      [⟨"option", "Option", "client", "github.com/smallnest/rpcx/client"⟩]
    ∃ stubs, ((plugin options).generate file table).outcome = .ok (some stubs)
      ∧ stubs.declaredPaths.count (Required.client.importPath options.root) = 2
      ∧ ¬ stubs.declaredPaths.Nodup := by
  intro options file table
  have complete : file.hasServices = true
      ∧ ∀ mention ∈ file.mentions, SortedMap.contains table mention.ref = true := by
    decide
  have generated : ∃ stubs, ((plugin options).generate file table).outcome = .ok (some stubs) :=
    exists_generate_eq_ok_iff.mpr complete
  rcases generated with ⟨stubs, made⟩
  have count := count_declaredPaths made (Required.client.importPath options.root)
  have twice : stubs.declaredPaths.count (Required.client.importPath options.root) = 2 := by
    rw [count]
    decide
  refine ⟨stubs, made, twice, fun nodup => ?_⟩
  have atMostOnce := List.nodup_iff_count_le_one.mp nodup
    (Required.client.importPath options.root)
  rw [twice] at atMostOnce
  contradiction

end RpcStubs.Stub
