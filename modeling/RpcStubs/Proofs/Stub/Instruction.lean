import Mathlib.Data.List.Induction
import RpcStubs.Generation.Generator

/-!
# Files made by instructions

A file that follows instructions from its beginning holds the texts that it was told to print, in
order, and imports the paths that were declared to it. In front of a path it writes what the last
named import of that path asks for; a plain declaration never changes this, wherever it comes
(`find?_imports_instructed_eq_some_iff`).
-/

namespace RpcStubs

open Go (Import)

/-- What a file writes in front of a path, if anything. -/
def Go.File.written? (file : Go.File) (path : String) : Option String :=
  (file.imports.find? path).getD none

namespace Stub

namespace Instruction

/-- The path that an instruction declares, if it declares one. -/
def path? : Instruction → Option String
  | declare path => some path
  | declareNamed item => some item.path
  | print _ => none

/-- The import that an instruction declares with a name, if it does. -/
def import? : Instruction → Option Import
  | declareNamed item => some item
  | declare _ | print _ => none

/-- The text that an instruction prints, if it prints one. -/
def block? : Instruction → Option String
  | print fragment => some fragment.text
  | declare _ | declareNamed _ => none

theorem path?_of_import?_eq_some {instruction : Instruction} {item : Import}
    (named : instruction.import? = some item) : instruction.path? = some item.path := by
  cases instruction with
  | declareNamed other =>
      obtain rfl := Option.some.inj named
      rfl
  | declare | print => contradiction

/-! ## One instruction -/

variable (file : Go.File) (instruction : Instruction)

theorem package_apply : (apply file instruction).package = file.package := by
  cases instruction <;> rfl

theorem body_apply : (apply file instruction).body = file.body ++ instruction.block?.toList := by
  cases instruction with
  | declare path => exact (List.append_nil _).symm
  | declareNamed item => exact (List.append_nil _).symm
  | print fragment => rfl

/-- A file imports what it imported before and what it is told to. -/
theorem contains_imports_apply (path : String) :
    (apply file instruction).imports.contains path = true ↔
      instruction.path? = some path ∨ file.imports.contains path = true := by
  simp only [SortedMap.contains_eq_isSome_find?]
  cases instruction with
  | declare declared =>
      rw [apply, Go.File.declare, SortedMap.find?_insertIfNew]
      by_cases same : path = declared
      · simp [path?, same]
      · simp [path?, same, Ne.symm same]
  | declareNamed item =>
      rw [apply, Go.File.declareNamed, SortedMap.find?_insert]
      by_cases same : path = item.path
      · simp [path?, same]
      · simp [path?, same, Ne.symm same]
  | print fragment => simp [apply, Go.File.print, path?]

/-- Only an import with a name changes what is written in front of a path, and only of its own. -/
theorem written?_apply (path : String) :
    (apply file instruction).written? path =
      match instruction.import?.filter fun item => item.path = path with
      | some item => item.alias?
      | none => file.written? path := by
  unfold Go.File.written?
  cases instruction with
  | declare declared =>
      rw [apply, Go.File.declare, SortedMap.find?_insertIfNew]
      by_cases same : path = declared <;> simp [import?, same]
  | declareNamed item =>
      rw [apply, Go.File.declareNamed, SortedMap.find?_insert]
      by_cases same : path = item.path
      · simp [import?, same, Option.filter]
      · simp [import?, same, Ne.symm same, Option.filter]
  | print fragment => rfl

end Instruction

/-! ## Many instructions -/

/-- The file of a package after some instructions. -/
def instructed (package : String) (instructions : List Instruction) : Go.File :=
  instructions.foldl Instruction.apply { package }

/-- The last import of a path that some instructions give a name. -/
def lastNamed? (path : String) (instructions : List Instruction) : Option Import :=
  (instructions.filterMap Instruction.import?).reverse.find? fun item => item.path = path

variable {package path : String} {instructions : List Instruction}

theorem instructed_concat (package : String) (earlier : List Instruction) (last : Instruction) :
    instructed package (earlier ++ [last]) =
      Instruction.apply (instructed package earlier) last :=
  List.foldl_append

theorem package_instructed : (instructed package instructions).package = package := by
  induction instructions using List.reverseRecOn with
  | nil => rfl
  | append_singleton earlier last ih => rw [instructed_concat, Instruction.package_apply, ih]

/-- A file holds the texts that it was told to print. -/
theorem body_instructed :
    (instructed package instructions).body = instructions.filterMap Instruction.block? := by
  induction instructions using List.reverseRecOn with
  | nil => rfl
  | append_singleton earlier last ih =>
      rw [instructed_concat, Instruction.body_apply, ih, List.filterMap_append]
      cases last <;> rfl

/-- A file imports the paths that were declared to it. -/
theorem contains_imports_instructed_iff :
    (instructed package instructions).imports.contains path = true ↔
      path ∈ instructions.filterMap Instruction.path? := by
  induction instructions using List.reverseRecOn with
  | nil => simp [instructed, SortedMap.contains, SortedMap.empty]
  | append_singleton earlier last ih =>
      rw [instructed_concat, Instruction.contains_imports_apply, ih, List.filterMap_append,
        List.mem_append, or_comm]
      simp

theorem lastNamed?_concat (path : String) (earlier : List Instruction) (last : Instruction) :
    lastNamed? path (earlier ++ [last]) =
      (last.import?.filter fun item => item.path = path).or (lastNamed? path earlier) := by
  have single : [last].filterMap Instruction.import? = last.import?.toList := by
    cases last <;> rfl
  rw [lastNamed?, List.filterMap_append, List.reverse_append, List.find?_append, single, lastNamed?]
  congr 1
  cases last.import? with
  | none => rfl
  | some item => by_cases same : item.path = path <;> simp [Option.filter, same]

theorem mem_of_lastNamed?_eq_some {item : Import}
    (last : lastNamed? path instructions = some item) :
    item ∈ instructions.filterMap Instruction.import? ∧ item.path = path := by
  constructor
  · exact List.mem_reverse.mp (List.mem_of_find?_eq_some last)
  · simpa using List.find?_some last

/-- In front of a path a file writes what the last import of the path with a name asks for. -/
theorem written?_instructed :
    (instructed package instructions).written? path =
      (lastNamed? path instructions).bind Import.alias? := by
  induction instructions using List.reverseRecOn with
  | nil => rfl
  | append_singleton earlier last ih =>
      rw [instructed_concat, Instruction.written?_apply, ih, lastNamed?_concat]
      cases last.import?.filter fun item => item.path = path <;> rfl

theorem find?_imports_instructed_eq_some_iff {written : Option String} :
    (instructed package instructions).imports.find? path = some written ↔
      path ∈ instructions.filterMap Instruction.path?
        ∧ (lastNamed? path instructions).bind Import.alias? = written := by
  have declared : (instructed package instructions).imports.contains path = true ↔
      path ∈ instructions.filterMap Instruction.path? := contains_imports_instructed_iff
  have asked : (instructed package instructions).written? path =
      (lastNamed? path instructions).bind Import.alias? := written?_instructed
  rw [← declared, ← asked, SortedMap.contains_eq_isSome_find?, Go.File.written?]
  cases (instructed package instructions).imports.find? path <;> simp

end Stub

end RpcStubs
