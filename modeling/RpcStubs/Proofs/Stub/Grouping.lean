import RpcStubs.Proofs.Go.ImportBlock
import RpcStubs.Proofs.Stub.Instruction

/-!
# The import block of an instructed file

The import block of a file that followed instructions has a line for every path that was declared to
it, and no other line. The standard library comes first; within both groups the paths are in the
order of their bytes. In front of a path stands what its last import with a name asks for, so the
order of the instructions does not matter to the block as long as no two imports give one path
different names (`importBlock_states_declarations`).
-/

namespace RpcStubs.Stub

open Go (Import)
open Go.File (blockText header)

/-! ## What a block states -/

/-- The imports of the standard library and all others, as some instructions declared them. -/
structure States (instructions : List Instruction)
    (standard others : List (String × Option String)) : Prop where
  declared (path : String) :
    path ∈ (standard ++ others).map Prod.fst ↔ path ∈ instructions.filterMap Instruction.path?
  once : ((standard ++ others).map Prod.fst).Nodup
  undotted : ∀ entry ∈ standard, '.' ∉ Text.beforeFirst '/' entry.1.toList
  dotted : ∀ entry ∈ others, '.' ∈ Text.beforeFirst '/' entry.1.toList
  standard_increasing :
    standard.Pairwise fun first second => Text.bytes first.1 < Text.bytes second.1
  others_increasing :
    others.Pairwise fun first second => Text.bytes first.1 < Text.bytes second.1
  aliased (path name : String) :
    (path, some name) ∈ standard ++ others ↔
      ∃ item, lastNamed? path instructions = some item ∧ item.needsAlias = true ∧ item.name = name

/-- No two imports with names give the same path different ones. -/
def NamesAgree (instructions : List Instruction) : Prop :=
  ∀ first ∈ instructions.filterMap Instruction.import?,
    ∀ second ∈ instructions.filterMap Instruction.import?,
      first.path = second.path → first.name = second.name

variable {package path : String} {instructions : List Instruction}

/-- A name stands in front of a path exactly if the last import with a name needs it. -/
theorem written_iff {name : String} :
    (instructed package instructions).imports.find? path = some (some name) ↔
      ∃ item, lastNamed? path instructions = some item
        ∧ item.needsAlias = true ∧ item.name = name := by
  rw [find?_imports_instructed_eq_some_iff, Option.bind_eq_some_iff]
  have asks (item : Import) :
      item.alias? = some name ↔ item.needsAlias = true ∧ item.name = name := by
    simp [Import.alias?]
  simp only [asks]
  constructor
  · exact And.right
  · rintro ⟨item, last, needed⟩
    refine ⟨?_, item, last, needed⟩
    rcases mem_of_lastNamed?_eq_some last with ⟨member, rfl⟩
    rcases List.mem_filterMap.mp member with ⟨instruction, given, named⟩
    exact List.mem_filterMap.mpr
      ⟨instruction, given, Instruction.path?_of_import?_eq_some named⟩

theorem states_instructed (package : String) (instructions : List Instruction) :
    States instructions (instructed package instructions).standardImports
      (instructed package instructions).otherImports where
  declared path := by
    rw [Go.File.mem_map_groups_iff, contains_imports_instructed_iff]
  once := Go.File.nodup_groups
  undotted entry member :=
    Go.File.isStandardPath_iff.mp (List.mem_filter.mp member).2
  dotted entry member := by
    have other := (List.mem_filter.mp member).2
    rw [Bool.not_eq_true', ← Bool.not_eq_true, Go.File.isStandardPath_iff, not_not] at other
    exact other
  standard_increasing := Go.File.pairwise_bytes_filter _ _
  others_increasing := Go.File.pairwise_bytes_filter _ _
  aliased path name := by
    rw [Go.File.mem_groups_iff, written_iff]

/-! ## Other orders -/

/-- Declaring a path plainly, at any point, changes no name in front of a path. -/
theorem written?_instructed_of_declare (earlier later : List Instruction) (plain : String) :
    (instructed package (earlier ++ later)).written? path =
      (instructed package (earlier ++ .declare plain :: later)).written? path := by
  have same : (earlier ++ .declare plain :: later).filterMap Instruction.import? =
      (earlier ++ later).filterMap Instruction.import? := by
    rw [List.filterMap_append, List.filterMap_append, List.filterMap_cons_none rfl]
  rw [written?_instructed, written?_instructed, lastNamed?, lastNamed?, same]

/-- Where names agree, every import with a name is the last one of its path. -/
theorem lastNamed?_eq_some_iff (agree : NamesAgree instructions) {item : Import} :
    lastNamed? path instructions = some item ↔
      item ∈ instructions.filterMap Instruction.import? ∧ item.path = path := by
  constructor
  · exact mem_of_lastNamed?_eq_some
  · rintro ⟨member, rfl⟩
    cases last : lastNamed? item.path instructions with
    | none =>
        have absent := List.find?_eq_none.mp last item (List.mem_reverse.mpr member)
        exact absurd (decide_eq_true rfl) absent
    | some other =>
        rcases mem_of_lastNamed?_eq_some last with ⟨otherMember, samePath⟩
        have sameName := agree other otherMember item member samePath
        rcases item with ⟨path, name⟩
        rcases other with ⟨otherPath, otherName⟩
        obtain rfl : otherPath = path := samePath
        obtain rfl : otherName = name := sameName
        rfl

theorem NamesAgree.of_perm {reordered : List Instruction} (agree : NamesAgree instructions)
    (order : reordered.Perm instructions) : NamesAgree reordered := by
  have members (item : Import) := (order.filterMap Instruction.import?).mem_iff (a := item)
  intro first firstMember second secondMember
  exact agree first ((members first).mp firstMember) second ((members second).mp secondMember)

/-- Where names agree, a file imports the same whatever the order of its instructions. -/
theorem imports_instructed_of_perm {reordered : List Instruction}
    (order : reordered.Perm instructions) (agree : NamesAgree instructions) :
    (instructed package reordered).imports = (instructed package instructions).imports := by
  apply SortedMap.eq_of_find?_eq
  intro path
  have sameLast : lastNamed? path reordered = lastNamed? path instructions := by
    refine Option.ext fun item => ?_
    rw [lastNamed?_eq_some_iff agree, lastNamed?_eq_some_iff (agree.of_perm order),
      (order.filterMap Instruction.import?).mem_iff]
  refine Option.ext fun written => ?_
  rw [find?_imports_instructed_eq_some_iff, find?_imports_instructed_eq_some_iff, sameLast,
    (order.filterMap Instruction.path?).mem_iff]

/-! ## The block -/

theorem importBlock_instructed_eq_empty_iff :
    (instructed package instructions).importBlock = "" ↔
      instructions.filterMap Instruction.path? = [] := by
  have states := states_instructed package instructions
  rw [Go.File.importBlock_eq_blockText, List.eq_nil_iff_forall_not_mem]
  simp only [← states.declared]
  rw [← List.eq_nil_iff_forall_not_mem, List.map_eq_nil_iff, List.append_eq_nil_iff, blockText]
  split
  · simp [*]
  · simp only [*, iff_false]
    intro empty
    have ending := congrArg String.length empty
    simp at ending

/-- The import block of an instructed file stands between its header and its code. It is made of two
groups which state what was declared; it is missing exactly if nothing was. Plain declarations
change no name in front of a path, and where names agree, the order of the instructions does not
change the block. -/
theorem importBlock_states_declarations (package : String) (instructions : List Instruction) :
    let file := instructed package instructions
    file.render = header package ++ file.importBlock
        ++ "".intercalate ((instructions.filterMap Instruction.block?).map ("\n" ++ ·))
      ∧ (∃ standard others,
        States instructions standard others ∧ file.importBlock = blockText standard others)
      ∧ (file.importBlock = "" ↔ instructions.filterMap Instruction.path? = [])
      ∧ (∀ earlier plain later, instructions = earlier ++ .declare plain :: later →
        ∀ path, (instructed package (earlier ++ later)).written? path = file.written? path)
      ∧ ∀ reordered : List Instruction, reordered.Perm instructions → NamesAgree instructions →
        (instructed package reordered).importBlock = file.importBlock := by
  intro file
  refine ⟨?_, ?_, importBlock_instructed_eq_empty_iff, ?_, ?_⟩
  · rw [Go.File.render, package_instructed, body_instructed]
  · exact ⟨_, _, states_instructed package instructions, Go.File.importBlock_eq_blockText file⟩
  · rintro earlier plain later rfl path
    exact written?_instructed_of_declare earlier later plain
  · intro reordered order agree
    exact Go.File.importBlock_eq_of_imports_eq (imports_instructed_of_perm order agree)

-- Of two names for one path the later one stays.
example :
    (instructed "shop" [.declareNamed ⟨"a/b", "c"⟩, .declareNamed ⟨"a/b", "d"⟩]).importBlock
      = "\nimport (\n\td \"a/b\"\n)\n" := by
  decide +kernel

end RpcStubs.Stub
