import RpcStubs.Proofs.Command.Script
import RpcStubs.Proofs.Path.Join

/-!
# Where a request writes

Only a request for stubs in a directory writes files, and it writes them where going below that
directory leads. So whatever the descriptor set names its files, each is written below the directory
(`written_below`).
-/

namespace RpcStubs

/-- Where the code generated for a schema file goes ends in a name. -/
theorem SchemaFile.names_outputPath_ne_nil (name : String) : Path.names (outputPath name) ≠ [] :=
  Path.names_append_ne_nil _ (by decide) (by decide)

namespace Command

variable {target content : String}

/-- What is written to store some files is the content of one of them, at the path that it has below
the directory. -/
theorem exists_below?_of_mem_store {directory : String} {files : List GeneratedFile}
    (writes : .write target content ∈ (store directory files).steps) :
    ∃ file ∈ files, Path.below? directory file.path = some target ∧ file.content = content := by
  induction files with
  | nil => cases writes
  | cons first rest ih =>
      cases found : Path.below? directory first.path with
      | none =>
          simp only [store, found] at writes
          cases writes
      | some path =>
          simp only [store, found] at writes
          rcases List.mem_append.mp writes with here | later
          · have same : target = path ∧ content = first.content := by
              simpa [storing] using here
            rcases same with ⟨rfl, rfl⟩
            exact ⟨first, List.mem_cons_self, found, rfl⟩
          · rcases ih later with ⟨file, member, below⟩
            exact ⟨file, List.mem_cons_of_mem first member, below⟩

namespace Request

variable {request : Request} {text : Except String String}

/-- Only a request for stubs in a directory writes anything, and only to store what was generated. -/
theorem exists_store_of_mem_script (writes : .write target content ∈ (request.script text).steps) :
    ∃ descriptors options path files, request = .generate descriptors options (.directory path)
      ∧ (request.generated text).outcome = .ok files
      ∧ .write target content ∈ (store (path.getD defaultDirectory) files).steps := by
  rw [script, Script.ofJournaled] at writes
  rcases List.mem_append.mp writes with logged | later
  · rcases List.mem_map.mp logged with ⟨entry, _, same⟩
    cases same
  · cases made : (request.generated text).outcome with
    | error failure =>
        rw [made] at later
        cases later
    | ok files =>
        rw [made] at later
        cases request with
        | check descriptors options => simp [conclude] at later
        | generate descriptors options destination =>
            simp only [conclude] at later
            split at later
            · simp at later
            · cases destination with
              | standardOutput => simp [deliver] at later
              | directory path => exact ⟨descriptors, options, path, files, rfl, rfl, later⟩

end Request

/-- Going below a directory is allowed exactly for the paths that do not begin at the root and have
no step up, and leads along the steps of the directory and then along the names of the path, nothing
taken back. Whatever a request for some descriptor set writes it writes for stubs in a directory,
and at least one name below that. -/
theorem written_below :
    (∀ directory path,
      ((Path.below? directory path).isSome = true ↔
        ¬Path.IsAbsolute path ∧ ['.', '.'] ∉ Text.pieces '/' path.toList)
      ∧ ∀ target, Path.below? directory path = some target →
        Path.moves target = Path.moves directory
          ++ ((Path.components path).filterMap Path.Component.name?).map .name)
    ∧ ∀ (request : Request) (text : Except String String) (target content : String),
      .write target content ∈ (request.script text).steps →
        ∃ descriptors options path names,
          request = .generate descriptors options (.directory path) ∧ names ≠ []
          ∧ Path.moves target = Path.moves (path.getD defaultDirectory) ++ names.map .name := by
  constructor
  · intro directory path
    exact ⟨Path.isSome_below?_iff, fun target => Path.moves_of_below?⟩
  · intro request text target content writes
    rcases Request.exists_store_of_mem_script writes with
      ⟨descriptors, options, path, files, asked, made, stored⟩
    rcases exists_below?_of_mem_store stored with ⟨file, member, found, _⟩
    rcases Request.generated_eq_ok_iff.mp made with ⟨settings, set, _, _, generated⟩
    have selected := Generator.selected_of_generate_eq_ok generated
    rw [Generator.generate_ofOptions selected] at generated
    have paths := Generator.map_path_eq_of_forall₂ (Generator.forall₂_generateFiles generated)
    have isOutput : file.path ∈ files.map GeneratedFile.path := List.mem_map_of_mem member
    rw [paths] at isOutput
    rcases List.mem_map.mp isOutput with ⟨schema, _, same⟩
    refine ⟨descriptors, options, path, Path.names file.path, asked, ?_, ?_⟩
    · rw [← same]
      exact SchemaFile.names_outputPath_ne_nil schema.name
    · rw [Path.moves_of_below? found, Path.filterMap_name?_components]

end Command

end RpcStubs
