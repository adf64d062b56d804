import RpcStubs.Command.Run
import RpcStubs.Proofs.Command.Session
import RpcStubs.Proofs.Descriptor.Decoding
import RpcStubs.Proofs.Disk.Change
import RpcStubs.Proofs.Fallible
import RpcStubs.Proofs.Generation.Outcome
import RpcStubs.Proofs.Log.Failure

/-!
# Scripts for stubs

All files are generated before the first step is taken that touches the disk, and whatever fails up
to there is told in a report (`told_of_generated`). The files are then stored in order, up to the
first that would leave the output directory (`store_append_cons`).
-/

namespace RpcStubs.Command

open Log (Journaled)

namespace Request

variable {request : Request} {text : Except String String}

/-- The files for a request are those that its options ask for of its descriptor set. -/
theorem generated_eq_ok_iff {files : List GeneratedFile} :
    (request.generated text).outcome = .ok files ↔
      ∃ options set, Options.ofText? request.options = .ok options
        ∧ loaded request.descriptors text = .ok set
        ∧ (Generator.ofOptions options).generate set = .ok files := by
  simp only [generated, Journaled.outcome_bind_eq_ok_iff, Journaled.outcome_ofExcept,
    Journaled.outcome_mapError, Generator.generate, mapError_eq_ok_iff]
  constructor
  · rintro ⟨options, chosen, set, held, _, _, made⟩
    exact ⟨options, set, chosen, held, made⟩
  · rintro ⟨options, set, chosen, held, made⟩
    exact ⟨options, chosen, set, held, (), rfl, made⟩

/-- Whatever fails before files are stored is told in a report. -/
theorem told_of_generated {failure : Failure}
    (failed : (request.generated text).outcome = .error failure) :
    ∃ diagnostic, failure = .told diagnostic := by
  rcases Journaled.outcome_bind_eq_error_iff.mp failed with faulty | ⟨options, _, failed⟩
  · rcases mapError_eq_error_iff.mp faulty with ⟨error, _, rfl⟩
    exact ⟨_, rfl⟩
  rcases Journaled.outcome_bind_eq_error_iff.mp failed with faulty | ⟨set, _, failed⟩
  · rcases mapError_eq_error_iff.mp faulty with ⟨error, _, rfl⟩
    exact ⟨_, rfl⟩
  rcases Journaled.outcome_bind_eq_error_iff.mp failed with noted | ⟨_, _, failed⟩
  · cases noted
  · rcases mapError_eq_error_iff.mp failed with ⟨error, _, rfl⟩
    exact ⟨_, rfl⟩

/-- For a set with two files with services, in which everything mentioned is registered, two files
are generated. -/
theorem exists_generated_pair {set : DescriptorSet} {first second : SchemaFile}
    (complete : ∀ mention ∈ set.mentions,
      SortedMap.contains set.symbolTable mention.ref = true)
    (pair : set.files.filter SchemaFile.hasServices = [first, second]) {path other : String}
    (firstPath : SchemaFile.outputPath first.name = path)
    (secondPath : SchemaFile.outputPath second.name = other) (descriptors : String)
    (destination : Destination) :
    ∃ text otherText,
      ((Request.generate descriptors none destination).generated (.ok set.text)).outcome =
          .ok [⟨path, text⟩, ⟨other, otherText⟩]
        ∧ Generator.GeneratedFrom {} set.symbolTable first ⟨path, text⟩
        ∧ Generator.GeneratedFrom {} set.symbolTable second ⟨other, otherText⟩ := by
  have selected : ({} : Options).plugin = "rpcx" := rfl
  rcases Generator.exists_generated_of_complete selected complete with ⟨files, made, records⟩
  rw [pair] at records
  rcases List.forall₂_cons_left_iff.mp records with ⟨⟨_, text⟩, _, record, behind, rfl⟩
  rcases List.forall₂_cons_left_iff.mp behind with ⟨⟨_, otherText⟩, _, otherRecord, nothing, rfl⟩
  obtain rfl := List.forall₂_nil_left_iff.mp nothing
  obtain rfl := record.path.trans firstPath
  obtain rfl := otherRecord.path.trans secondPath
  exact ⟨text, otherText, generated_eq_ok_iff.mpr
    ⟨{}, set, rfl, DescriptorSet.load_text _ set, made⟩, record, otherRecord⟩

end Request

/-! ## Storing -/

/-- What is done to store stubs in a directory. -/
def storingScript (descriptors : String) (options path : Option String)
    (text : Except String String) : Script :=
  (Request.generate descriptors options (.directory path)).script text

section Whole

variable {descriptors : String} {options path : Option String} {text : Except String String}

theorem storingScript_of_error {failure : Failure}
    (failed : ((Request.generate descriptors options (.directory path)).generated text).outcome =
      .error failure) :
    storingScript descriptors options path text = {
      steps := ((Request.generate descriptors options (.directory path)).generated text).journal.map
        .log
      failure := some failure } := by
  rw [storingScript, Request.script, Script.ofJournaled, failed]
  simp only [Script.fail, Script.after, List.append_nil]

/-- Once files are generated, storing them is all that is done apart from logging. -/
theorem exists_storingScript_eq {files : List GeneratedFile}
    (made : ((Request.generate descriptors options (.directory path)).generated text).outcome =
      .ok files) :
    ∃ entries : List Log.Entry, storingScript descriptors options path text =
      .after (entries.map .log) (store (path.getD defaultDirectory) files) := by
  rw [storingScript, Request.script, Script.ofJournaled, made]
  simp only [Request.conclude]
  split
  next empty =>
    obtain rfl := List.isEmpty_iff.mp empty
    refine ⟨((Request.generate descriptors options (.directory path)).generated text).journal
      ++ [.event none (.nothing descriptors)], ?_⟩
    rw [List.map_append, Script.after, Script.after, store, List.append_nil]
    rfl
  next => exact ⟨_, rfl⟩

theorem filter_touchesDisk_map_log (entries : List Log.Entry) :
    (entries.map Step.log).filter Step.touchesDisk = [] := by
  rw [List.filter_eq_nil_iff]
  intro step member
  rcases List.mem_map.mp member with ⟨entry, _, rfl⟩
  exact Bool.false_ne_true

theorem allOnDisk_map_log (disk : Disk) (entries : List Log.Entry) :
    Step.allOnDisk disk (entries.map .log) = (disk, none) := by
  rw [← Step.allOnDisk_filter, filter_touchesDisk_map_log, Step.allOnDisk]

theorem allOnDisk_after_log (disk : Disk) (entries : List Log.Entry) (script : Script) :
    Step.allOnDisk disk (Script.after (entries.map .log) script).steps =
      Step.allOnDisk disk script.steps :=
  Step.allOnDisk_append (allOnDisk_map_log disk entries) script.steps

end Whole

variable {directory : String} {earlier : List GeneratedFile} {file : GeneratedFile}

/-- Files that stay below the directory are stored without failure. -/
theorem failure_store (below : ∀ file ∈ earlier, (Path.below? directory file.path).isSome = true) :
    (store directory earlier).failure = none := by
  induction earlier with
  | nil => rfl
  | cons first rest ih =>
      rcases Option.isSome_iff_exists.mp (below first List.mem_cons_self) with ⟨path, found⟩
      rw [store, found]
      exact ih fun file member => below file (List.mem_cons_of_mem first member)

/-- Storing touches the disk as soon as there is a file to store. -/
theorem untouched_store_iff
    (below : ∀ file ∈ earlier, (Path.below? directory file.path).isSome = true) :
    (store directory earlier).steps.filter Step.touchesDisk = [] ↔ earlier = [] := by
  cases earlier with
  | nil => simp [store]
  | cons first rest =>
      rcases Option.isSome_iff_exists.mp (below first List.mem_cons_self) with ⟨path, found⟩
      simp [store, found, Script.after, storing, Step.touchesDisk]

/-- The first file that would leave the directory ends the storing, whatever comes behind it. -/
theorem store_append_cons
    (below : ∀ file ∈ earlier, (Path.below? directory file.path).isSome = true)
    (leaves : Path.below? directory file.path = none) (later : List GeneratedFile) :
    store directory (earlier ++ file :: later) =
      { steps := (store directory earlier).steps, failure := some (.escapes file.path) } := by
  induction earlier with
  | nil =>
      rw [List.nil_append, store.eq_def]
      simp only [leaves]
      rfl
  | cons first rest ih =>
      rcases Option.isSome_iff_exists.mp (below first List.mem_cons_self) with ⟨path, found⟩
      rw [List.cons_append, store, store, found,
        ih fun file member => below file (List.mem_cons_of_mem first member)]
      rfl

/-- Either all files stay below the directory, or there is a first that would leave it. -/
theorem forall_below_or_exists_first (directory : String) (files : List GeneratedFile) :
    (∀ file ∈ files, (Path.below? directory file.path).isSome = true)
      ∨ ∃ earlier file later, files = earlier ++ file :: later
        ∧ (∀ other ∈ earlier, (Path.below? directory other.path).isSome = true)
        ∧ Path.below? directory file.path = none := by
  cases search : files.find? fun file => (Path.below? directory file.path).isNone with
  | none =>
      left
      simpa [Option.isSome_iff_ne_none] using search
  | some file =>
      right
      rcases List.find?_eq_some_iff_append.mp search with ⟨leaves, earlier, later, split, below⟩
      refine ⟨earlier, file, later, split, ?_, Option.isNone_iff_eq_none.mp leaves⟩
      intro other member
      simpa [Option.isSome_iff_ne_none] using below other member

/-! ## Storing what the system grants -/

/-- A file is stored once its directory is made and the system takes its content. -/
theorem allOnDisk_store_cons {disk made stored : Disk} {file : GeneratedFile}
    {target above : String} (found : Path.below? directory file.path = some target)
    (parent : Path.parent? target = some above) (making : disk.makeDirectories above = .ok made)
    (writing : made.write target (.text file.content) = .ok stored) (rest : List GeneratedFile) :
    Step.allOnDisk disk (store directory (file :: rest)).steps =
      Step.allOnDisk stored (store directory rest).steps := by
  have storedAlone : Step.allOnDisk disk (storing target file.content) = (stored, none) := by
    rw [storing, parent]
    simp [Step.allOnDisk, Step.onDisk, making, writing]
  rw [store, found]
  exact Step.allOnDisk_append storedAlone _

/-! ## A directory in an empty one -/

/-- The empty disk once there is a directory for stubs, with some entries. -/
def diskWithStubs (entries : List (String × Node)) : Disk where
  root := .directory [("work", .directory [("out", .directory entries)])]
  here := ["work"]

theorem upward_out : Path.upward "out" = ["out"] := by
  rw [Path.upward_of_parent?_eq_some (by decide : Path.parent? "out" = some ""),
    Path.upward_of_parent?_eq_none (by decide)]

theorem makeDirectories_out_fresh : Disk.fresh.makeDirectories "out" = .ok (diskWithStubs []) := by
  rw [Disk.makeDirectories, upward_out]
  rfl

theorem makeDirectories_out (entries : List (String × Node)) :
    (diskWithStubs entries).makeDirectories "out" = .ok (diskWithStubs entries) := by
  rw [Disk.makeDirectories, upward_out]
  rfl

/-- Whether a file of some name can be an entry of the directory for stubs. -/
def FitsOut (name : String) : Prop :=
  Path.below? "out" name = some ("out/" ++ name) ∧ Path.parent? ("out/" ++ name) = some "out"
    ∧ Path.steps ("out/" ++ name) = [.name "out", .name name]
    ∧ Disk.refusal? ("out/" ++ name) = none ∧ name.utf8ByteSize ≤ Disk.longestName

instance (name : String) : Decidable (FitsOut name) :=
  inferInstanceAs (Decidable (_ ∧ _))

variable {name : String} {entries : List (String × Node)}

theorem placeOf_out (fits : FitsOut name) :
    (diskWithStubs entries).placeOf ("out/" ++ name) = ["work", "out", name] := by
  rcases fits with ⟨_, _, steps, _, _⟩
  rw [Disk.placeOf, steps]
  rfl

theorem reaches_out (fits : FitsOut name) : (diskWithStubs entries).Reaches ("out/" ++ name) := by
  rcases fits with ⟨_, _, steps, sound, short⟩
  rw [Disk.Reaches, steps]
  refine ⟨sound, ?_, ?_⟩
  · exact ⟨⟨rfl, by decide⟩, rfl, trivial⟩
  · exact ⟨rfl, decide_eq_true short⟩

theorem kindAt?_out (name : String) (entries : List (String × Node)) :
    (diskWithStubs entries).kindAt? ["work", "out", name] =
      (SortedMap.valueAt? name entries).bind (·.kindAt? []) := by
  simp [diskWithStubs, Disk.kindAt?, Node.kindAt?_cons, Node.child?, SortedMap.valueAt?]

/-- What is written to the directory for stubs becomes an entry of it. -/
theorem write_out (fits : FitsOut name)
    (free : ∀ node, SortedMap.valueAt? name entries = some node → node.isDirectory = false)
    (content : Content) :
    (diskWithStubs entries).write ("out/" ++ name) content =
      .ok (diskWithStubs (SortedMap.insertEntry name (.file content) entries)) := by
  have put : (diskWithStubs entries).put ["work", "out", name] (.file content) =
      diskWithStubs (SortedMap.insertEntry name (.file content) entries) := by
    simp [diskWithStubs, Disk.put, Node.put, Node.child?, Node.setChild, SortedMap.valueAt?,
      SortedMap.insertEntry]
  apply Disk.write_eq_ok_iff.mpr
  rw [placeOf_out fits, put, kindAt?_out]
  refine ⟨reaches_out fits, ?_, rfl⟩
  intro taken
  rcases Option.bind_eq_some_iff.mp taken with ⟨node, held, isDirectory⟩
  have kept := Node.isDirectory_iff_content?.mpr (Option.some.inj isDirectory)
  rw [free node held] at kept
  cases kept

theorem read_out {text : String} (fits : FitsOut name)
    (held : SortedMap.valueAt? name entries = some (.file (.text text))) :
    (diskWithStubs entries).read ("out/" ++ name) = .ok text := by
  apply Disk.read_eq_ok_iff.mpr
  rw [placeOf_out fits, kindAt?_out, held]
  exact ⟨reaches_out fits, rfl⟩

theorem allOnDisk_store_fresh (fits : FitsOut name) (content : String)
    (rest : List GeneratedFile) :
    Step.allOnDisk Disk.fresh (store "out" (⟨name, content⟩ :: rest)).steps =
      Step.allOnDisk (diskWithStubs [(name, .file (.text content))]) (store "out" rest).steps := by
  have writing := @write_out name [] fits (by simp [SortedMap.valueAt?]) (.text content)
  exact @allOnDisk_store_cons "out" _ _ _ ⟨name, content⟩ _ _ fits.1 fits.2.1
    makeDirectories_out_fresh writing rest

theorem allOnDisk_store_out (fits : FitsOut name)
    (free : ∀ node, SortedMap.valueAt? name entries = some node → node.isDirectory = false)
    (content : String) (rest : List GeneratedFile) :
    Step.allOnDisk (diskWithStubs entries) (store "out" (⟨name, content⟩ :: rest)).steps =
      Step.allOnDisk (diskWithStubs (SortedMap.insertEntry name (.file (.text content)) entries))
        (store "out" rest).steps :=
  @allOnDisk_store_cons "out" _ _ _ ⟨name, content⟩ _ _ fits.1 fits.2.1
    (makeDirectories_out entries) (write_out fits free (.text content)) rest

end RpcStubs.Command
