import RpcStubs.Go.File
import RpcStubs.Proofs.Go.Literal
import RpcStubs.Proofs.Sorted.Lookup
import RpcStubs.Proofs.Text.Bytes
import RpcStubs.Proofs.Text.Intercalate
import RpcStubs.Proofs.Text.Within

/-!
# The import block of a file

The import block has a line for each import of the file, in two groups (`importBlock_eq_blockText`),
so every import has its line there (`exists_importBlock_eq`). The path stands there between quotes
as it is, so reading the quotes as a literal gives it back exactly where all its characters are
plain (`read?_quotedPath_iff`).
-/

namespace RpcStubs.Go.File

variable {file : File} {path : String} {written : Option String}

/-! ## Groups -/

/-- The lines of some imports. -/
def specLines (entries : List (String × Option String)) : String :=
  "".intercalate (entries.map fun entry => importLine entry.1 entry.2)

/-- The text of an import block with two groups, a blank line between them if neither is empty. No
block has no import. -/
def blockText (standard others : List (String × Option String)) : String :=
  if standard = [] ∧ others = [] then ""
  else
    "\nimport (\n" ++ specLines standard
      ++ (if standard = [] ∨ others = [] then "" else "\n") ++ specLines others ++ ")\n"

/-- The imports of a file from the standard library. -/
def standardImports (file : File) : List (String × Option String) :=
  file.imports.entries.filter fun entry => isStandardPath entry.1

/-- All other imports of a file. -/
def otherImports (file : File) : List (String × Option String) :=
  file.imports.entries.filter fun entry => !isStandardPath entry.1

theorem mem_groups_iff :
    (path, written) ∈ file.standardImports ++ file.otherImports ↔
      file.imports.find? path = some written := by
  rw [List.mem_append, standardImports, otherImports, List.mem_filter, List.mem_filter,
    ← SortedMap.mem_entries_iff]
  cases isStandardPath path <;> simp

/-- The groups list no path twice. -/
theorem nodup_groups : ((file.standardImports ++ file.otherImports).map Prod.fst).Nodup := by
  have keys : ((file.standardImports ++ file.otherImports).map Prod.fst).Perm file.imports.keys :=
    (List.filter_append_perm _ file.imports.entries).map Prod.fst
  rw [keys.nodup_iff]
  refine file.imports.keys_increasing.imp ?_
  rintro path _ less rfl
  exact Std.lt_irrefl less

theorem mem_map_groups_iff :
    path ∈ (file.standardImports ++ file.otherImports).map Prod.fst ↔
      file.imports.contains path = true := by
  rw [SortedMap.contains_iff, List.mem_map]
  constructor
  · rintro ⟨⟨_, written⟩, member, rfl⟩
    exact ⟨written, mem_groups_iff.mp member⟩
  · rintro ⟨written, found⟩
    exact ⟨(path, written), mem_groups_iff.mpr found, rfl⟩

theorem groups_eq_nil_iff :
    file.standardImports = [] ∧ file.otherImports = [] ↔ file.imports.isEmpty = true := by
  rw [SortedMap.isEmpty, List.isEmpty_iff, standardImports, otherImports, List.filter_eq_nil_iff,
    List.filter_eq_nil_iff]
  constructor
  · rintro ⟨noStandard, noOther⟩
    refine List.eq_nil_iff_forall_not_mem.mpr fun entry member => ?_
    have other := noStandard entry member
    exact noOther entry member (by simpa using other)
  · intro empty
    simp [empty]

theorem importBlock_eq_of_imports_eq {first second : File} (same : first.imports = second.imports) :
    first.importBlock = second.importBlock := by
  rw [importBlock, importBlock, importGroups, importGroups, same]

/-- The import block of a file is made of its two groups. -/
theorem importBlock_eq_blockText (file : File) :
    file.importBlock = blockText file.standardImports file.otherImports := by
  have groups : file.importGroups =
      [file.standardImports, file.otherImports].filter fun group => !group.isEmpty := rfl
  have none : file.standardImports = [] ∧ file.otherImports = [] ↔ file.imports.isEmpty = true :=
    groups_eq_nil_iff
  rw [importBlock, blockText, groups]
  -- Both texts leave out what belongs to an empty group.
  cases standard : file.standardImports with
  | nil =>
      cases others : file.otherImports with
      | nil => simp [none.mp ⟨standard, others⟩]
      | cons entry rest =>
          have some : file.imports.isEmpty ≠ true := by simp [← none, others]
          simp [some, specLines]
  | cons entry rest =>
      have some : file.imports.isEmpty ≠ true := by simp [← none, standard]
      cases others : file.otherImports with
      | nil => simp [some, specLines]
      | cons other later => simp [some, specLines, String.append_assoc]

theorem isStandardPath_iff :
    isStandardPath path = true ↔ '.' ∉ Text.beforeFirst '/' path.toList := by
  simp [isStandardPath]

/-- Imports that are picked from those of a file stand in the order of the bytes of their paths. -/
theorem pairwise_bytes_filter (file : File) (pick : String × Option String → Bool) :
    (file.imports.entries.filter pick).Pairwise fun first second =>
      Text.bytes first.1 < Text.bytes second.1 := by
  refine (file.imports.increasing.filter pick).imp ?_
  intro first second less
  exact Text.bytes_lt_bytes_iff.mpr less

/-! ## Lines -/

theorem within_specLines {entries : List (String × Option String)}
    (member : (path, written) ∈ entries) :
    Text.Within (importLine path written) (specLines entries) := by
  rcases Text.exists_intercalate_eq ""
      (List.mem_map_of_mem (f := fun entry => importLine entry.1 entry.2) member) with
    ⟨before, after, found⟩
  rw [specLines, found]
  exact ((Text.Within.refl _).prepend before).append after

/-- The line of an import stands in the import block. -/
theorem exists_importBlock_eq (imported : file.imports.find? path = some written) :
    ∃ before after, file.importBlock = before ++ importLine path written ++ after := by
  apply Text.Within.exists_eq
  rw [importBlock_eq_blockText, blockText]
  rcases List.mem_append.mp (mem_groups_iff.mpr imported) with standard | other
  · rw [if_neg fun none => List.ne_nil_of_mem standard none.1]
    exact ((((within_specLines standard).prepend _).append _).append _).append _
  · rw [if_neg fun none => List.ne_nil_of_mem other none.2]
    exact ((within_specLines other).prepend _).append _

/-- What an import line writes in front of its quotes. -/
def importOpening (written : Option String) : String :=
  "\t" ++ match written with | some name => name ++ " " | none => ""

/-- A path as import lines write it. -/
def quotedPath (path : String) : String :=
  "\"" ++ path ++ "\""

theorem importLine_eq (path : String) (written : Option String) :
    importLine path written = importOpening written ++ quotedPath path ++ "\n" := by
  have ending : "\"\n" = "\"" ++ "\n" := rfl
  cases written <;>
    simp only [importLine, importOpening, quotedPath, ending, String.append_assoc]

/-- What an import line writes for a path denotes that path exactly where all its characters are
plain. -/
theorem read?_quotedPath_iff (path after : String) :
    Literal.read? (quotedPath path ++ after).toList = some (path.toList, after.toList) ↔
      ∀ c ∈ path.toList, Literal.Plain c := by
  have quote : "\"".toList = ['"'] := rfl
  rw [quotedPath, String.toList_append, String.toList_append, String.toList_append, quote,
    List.append_assoc]
  exact Literal.read?_quoted_iff

/-- An import stands in the import block with its path in quotes, at the end of a line. -/
theorem exists_importBlock_eq_quoted (imported : file.imports.find? path = some written) :
    ∃ before after,
      file.importBlock = before ++ importOpening written ++ quotedPath path ++ "\n" ++ after := by
  rcases exists_importBlock_eq imported with ⟨before, after, found⟩
  refine ⟨before, after, ?_⟩
  rw [found, importLine_eq]
  simp only [String.append_assoc]

end RpcStubs.Go.File
