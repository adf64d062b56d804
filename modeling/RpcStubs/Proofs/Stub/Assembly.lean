import Mathlib.Data.List.Nodup
import RpcStubs.Proofs.Sorted.Lookup
import RpcStubs.Proofs.Stub.Instruction

/-!
# Imports of an assembled file

Writing stubs to a new file declares the required packages plainly, then every import with its name,
and prints the fragments. As long as no two imports share a path, the file in the end binds the path
of an import to its name, and a required package without an import to its last element
(`binds_assemble_iff`).
-/

namespace RpcStubs

namespace Go.File

/-- The text of a file tells its package, if that is written in one line. -/
theorem package_eq_of_render_eq {first second : File} (oneLine : '\n' ∉ first.package.toList)
    (otherLine : '\n' ∉ second.package.toList) (same : first.render = second.render) :
    first.package = second.package := by
  obtain ⟨opening, opens⟩ : ∃ opening, ∀ package, header package = opening ++ package ++ "\n" :=
    ⟨_, fun _ => rfl⟩
  have lines (file : File) : ∃ rest,
      file.render.toList = opening.toList ++ (file.package.toList ++ '\n' :: rest) := by
    refine ⟨file.importBlock.toList ++ ("".intercalate (file.body.map ("\n" ++ ·))).toList, ?_⟩
    rw [render, opens]
    simp only [String.toList_append, List.append_assoc]
    rfl
  rcases lines first with ⟨rest, firstLines⟩
  rcases lines second with ⟨otherRest, secondLines⟩
  have together := (firstLines.symm.trans (congrArg String.toList same)).trans secondLines
  have ends := congrArg (Text.beforeFirst '\n') (List.append_cancel_left together)
  rw [Text.beforeFirst_append_cons oneLine, Text.beforeFirst_append_cons otherLine] at ends
  exact String.toList_inj.mp ends

/-- A file imports a path under a name: the one written in front of the path, or else its last
element. -/
def Binds (file : File) (path name : String) : Prop :=
  ∃ written, file.imports.find? path = some written ∧ Import.boundName path written = name

end Go.File

namespace Stub.FileStubs

variable (stubs : FileStubs) (package : String)

/-- What instructions tell is what packages, imports and fragments tell. -/
theorem filterMap_instructions {α : Type} (told : Instruction → Option α) :
    stubs.instructions.filterMap told =
      stubs.packages.filterMap (fun path => told (.declare path))
        ++ (SortedSet.toList stubs.imports).filterMap (fun item => told (.declareNamed item))
        ++ stubs.fragments.filterMap (fun fragment => told (.print fragment)) := by
  simp only [instructions, List.filterMap_append, List.filterMap_map, Function.comp_def]

theorem path?_instructions :
    stubs.instructions.filterMap Instruction.path? =
      stubs.packages ++ (SortedSet.toList stubs.imports).map Go.Import.path := by
  simp [filterMap_instructions, Instruction.path?, List.filterMap_eq_map']

theorem import?_instructions :
    stubs.instructions.filterMap Instruction.import? = SortedSet.toList stubs.imports := by
  simp [filterMap_instructions, Instruction.import?]

theorem assemble_eq_instructed :
    stubs.assemble package = instructed package stubs.instructions :=
  rfl

/-- What stubs tell a file does not change its package. -/
theorem package_assemble : (stubs.assemble package).package = package :=
  package_instructed

/-- An assembled file holds the texts of its fragments and nothing else. -/
theorem body_assemble : (stubs.assemble package).body = stubs.fragments.map Fragment.text := by
  rw [assemble_eq_instructed, body_instructed, filterMap_instructions]
  simp [Instruction.block?, List.filterMap_eq_map']

variable {stubs} {package}

/-- A file made of stubs imports the paths of their imports under the names of these, and other
required packages under their last elements. -/
theorem binds_assemble_iff
    (distinct : (SortedSet.toList stubs.imports).Pairwise fun first second =>
      first.path ≠ second.path)
    {path name : String} :
    (stubs.assemble package).Binds path name ↔
      ⟨path, name⟩ ∈ SortedSet.toList stubs.imports
        ∨ (∀ item ∈ SortedSet.toList stubs.imports, item.path ≠ path)
          ∧ path ∈ stubs.packages ∧ name = Go.lastElement path := by
  rw [Go.File.Binds, assemble_eq_instructed]
  simp only [find?_imports_instructed_eq_some_iff, path?_instructions, List.mem_append,
    List.mem_map]
  cases last : lastNamed? path stubs.instructions with
  | some item =>
      rcases mem_of_lastNamed?_eq_some last with ⟨member, rfl⟩
      rw [import?_instructions] at member
      constructor
      · rintro ⟨_, ⟨_, rfl⟩, rfl⟩
        refine .inl ?_
        rw [Option.bind_some, item.boundName_alias?]
        exact member
      · rintro (other | ⟨absent, _⟩)
        · have same : item = ⟨item.path, name⟩ :=
            List.inj_on_of_nodup_map (List.pairwise_map.mpr distinct) member other rfl
          refine ⟨item.alias?, ⟨.inr ⟨item, member, rfl⟩, rfl⟩, ?_⟩
          rw [item.boundName_alias?]
          exact congrArg Go.Import.name same
        · exact absurd rfl (absent item member)
  | none =>
      have absent : ∀ item ∈ SortedSet.toList stubs.imports, item.path ≠ path := by
        simpa [lastNamed?, import?_instructions] using last
      constructor
      · rintro ⟨_, ⟨declared, rfl⟩, rfl⟩
        refine .inr ⟨absent, ?_, rfl⟩
        rcases declared with required | ⟨item, member, same⟩
        · exact required
        · exact absurd same (absent item member)
      · rintro (member | ⟨_, required, rfl⟩)
        · exact absurd rfl (absent _ member)
        · exact ⟨none, ⟨.inl required, rfl⟩, rfl⟩

end Stub.FileStubs

end RpcStubs
