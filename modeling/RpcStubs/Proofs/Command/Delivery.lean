import Mathlib.Data.List.Nodup
import RpcStubs.Proofs.Command.Script
import RpcStubs.Proofs.Disk.Change
import RpcStubs.Proofs.Path.Below
import RpcStubs.Proofs.Stub.Assembly

/-!
# Which stubs are there in the end

Storing a file makes directories and writes at one place, so of files that go to one place the last
remains (`exists_last_of_store`). Every file with services therefore has its stubs in the directory,
at a place of their own, exactly where no two of their paths have the same names (`delivered_iff`).
-/

namespace RpcStubs.Command

/-- The last of some files that goes where a path does. -/
def lastStored (files : List GeneratedFile) (path : String) : Option GeneratedFile :=
  files.reverse.find? fun file => Path.names file.path = Path.names path

theorem lastStored_cons (first : GeneratedFile) (rest : List GeneratedFile) (path : String) :
    lastStored (first :: rest) path =
      (lastStored rest path).or
        (if Path.names first.path = Path.names path then some first else none) := by
  rw [lastStored, List.reverse_cons, List.find?_append, lastStored]
  by_cases same : Path.names first.path = Path.names path <;> simp [same]

/-! ## Storing one file -/

variable {disk later : Disk} {directory : String} {files : List GeneratedFile}

/-- Storing a file adds directories and then writes the file. -/
theorem exists_wrote_of_storing {target content : String}
    (done : (storing target content).foldlM Step.onDisk disk = .ok later) :
    ∃ middle, disk.AddsDirectories middle ∧ middle.Wrote later target (.text content) := by
  rw [storing, List.foldlM_append] at done
  rcases bind_eq_ok_iff.mp done with ⟨middle, made, written⟩
  rcases bind_eq_ok_iff.mp written with ⟨last, wrote, logged⟩
  obtain rfl := Except.ok.inj logged
  refine ⟨middle, ?_, Disk.wrote_of_write wrote⟩
  cases directory : Path.parent? target with
  | none =>
      rw [directory] at made
      obtain rfl := Except.ok.inj made
      exact .refl disk
  | some above =>
      rw [directory] at made
      rcases bind_eq_ok_iff.mp made with ⟨added, making, ended⟩
      obtain rfl := Except.ok.inj ended
      exact Disk.addsDirectories_of_makeDirectories making

theorem exists_wrote_of_store_cons {first : GeneratedFile} {rest : List GeneratedFile}
    {target : String} (found : Path.below? directory first.path = some target)
    (done : (store directory (first :: rest)).steps.foldlM Step.onDisk disk = .ok later) :
    ∃ added stored, disk.AddsDirectories added ∧ added.Wrote stored target (.text first.content)
      ∧ (store directory rest).steps.foldlM Step.onDisk stored = .ok later := by
  simp only [store, found, Script.after, List.foldlM_append] at done
  rcases bind_eq_ok_iff.mp done with ⟨stored, firstDone, restDone⟩
  rcases exists_wrote_of_storing firstDone with ⟨added, adds, wrote⟩
  exact ⟨added, stored, adds, wrote, restDone⟩

/-! ## Storing all files -/

/-- A path that is reached is read as the last file stored at its place, or else as before. -/
theorem read_of_store (below : ∀ file ∈ files, (Path.below? directory file.path).isSome = true)
    (done : (store directory files).steps.foldlM Step.onDisk disk = .ok later)
    {path target : String} (found : Path.below? directory path = some target)
    (reaches : disk.Reaches target) :
    (∀ last, lastStored files path = some last → later.read target = .ok last.content)
      ∧ (lastStored files path = none → ∀ text, disk.read target = .ok text →
        later.read target = .ok text) := by
  induction files generalizing disk with
  | nil =>
      obtain rfl := Except.ok.inj done
      exact ⟨nofun, fun _ _ held => held⟩
  | cons first rest ih =>
      rcases Option.isSome_iff_exists.mp (below first List.mem_cons_self) with ⟨there, firstFound⟩
      rcases exists_wrote_of_store_cons firstFound done with ⟨added, stored, adds, wrote, restDone⟩
      have reached := adds.growsTo.reaches reaches
      rcases ih (fun file member => below file (List.mem_cons_of_mem first member)) restDone
        (wrote.growsTo.reaches reached) with ⟨overwritten, kept⟩
      rw [lastStored_cons]
      cases behind : lastStored rest path with
      | some last =>
          rw [Option.some_or]
          exact ⟨fun _ same => Option.some.inj same ▸ overwritten last behind, nofun⟩
      | none =>
          rw [Option.none_or]
          have place := @Disk.placeOf_eq_iff added _ _ _ _ _ found firstFound
          by_cases same : Path.names first.path = Path.names path
          · rw [if_pos same]
            refine ⟨?_, nofun⟩
            rintro _ ⟨⟩
            exact kept behind _ (wrote.read_eq_ok reached (place.mpr same.symm))
          · rw [if_neg same]
            refine ⟨nofun, fun _ text held => kept behind text ?_⟩
            exact wrote.read_eq_ok_of_ne (fun one => same (place.mp one).symm)
              (adds.read_eq_ok held)

/-- Each stored file is read as the last file stored at its place. -/
theorem exists_last_of_store
    (below : ∀ file ∈ files, (Path.below? directory file.path).isSome = true)
    (done : (store directory files).steps.foldlM Step.onDisk disk = .ok later)
    {file : GeneratedFile} (member : file ∈ files) {target : String}
    (found : Path.below? directory file.path = some target) :
    ∃ last, lastStored files file.path = some last ∧ later.read target = .ok last.content := by
  induction files generalizing disk with
  | nil => cases member
  | cons first rest ih =>
      have restBelow : ∀ file ∈ rest, (Path.below? directory file.path).isSome = true :=
        fun file member => below file (List.mem_cons_of_mem first member)
      rcases Option.isSome_iff_exists.mp (below first List.mem_cons_self) with ⟨there, firstFound⟩
      rcases exists_wrote_of_store_cons firstFound done with ⟨added, stored, adds, wrote, restDone⟩
      rw [lastStored_cons]
      rcases List.mem_cons.mp member with rfl | inRest
      · obtain rfl := Option.some.inj (found.symm.trans firstFound)
        have held := wrote.read_eq_ok wrote.reaches rfl
        rcases read_of_store restBelow restDone found (wrote.growsTo.reaches wrote.reaches) with
          ⟨overwritten, kept⟩
        cases behind : lastStored rest file.path with
        | some last => exact ⟨last, Option.some_or, overwritten last behind⟩
        | none => exact ⟨file, by simp, kept behind _ held⟩
      · rcases ih restBelow restDone inRest with ⟨last, behind, read⟩
        exact ⟨last, by rw [behind, Option.some_or], read⟩

/-- Where all files have names of their own each is the last at its place. -/
theorem lastStored_eq_some
    (apart : files.Pairwise fun first second => Path.names first.path ≠ Path.names second.path)
    {file : GeneratedFile} (member : file ∈ files) : lastStored files file.path = some file := by
  cases last : lastStored files file.path with
  | none => simpa using List.find?_eq_none.mp last file (List.mem_reverse.mpr member)
  | some other =>
      have same : Path.names other.path = Path.names file.path := by
        simpa using List.find?_some last
      have otherMember := List.mem_reverse.mp (List.mem_of_find?_eq_some last)
      rw [List.inj_on_of_nodup_map (List.pairwise_map.mpr apart) otherMember member same]

section Run

variable {descriptors text : String} {options path : Option String} {set : DescriptorSet}
  {session : Session}

/-- A request that succeeds has stored all files that are generated for the set. -/
theorem exists_stored_of_run (loads : DescriptorSet.load (some descriptors) text = .ok set)
    (done : Session.run { disk } (storingScript descriptors options path (.ok text)) =
      (session, none)) :
    ∃ settings generated, Options.ofText? options = .ok settings
      ∧ (Generator.ofOptions settings).generate set = .ok generated
      ∧ (∀ file ∈ generated,
        (Path.below? (path.getD defaultDirectory) file.path).isSome = true)
      ∧ (store (path.getD defaultDirectory) generated).steps.foldlM Step.onDisk disk =
        .ok session.disk := by
  rcases Session.performAll_of_run_eq done with ⟨performed, fine⟩
  cases made : ((Request.generate descriptors options (.directory path)).generated
      (.ok text)).outcome with
  | error failure =>
      rw [storingScript_of_error made] at fine
      cases fine
  | ok generated =>
      rcases exists_storingScript_eq made with ⟨entries, found⟩
      rcases Request.generated_eq_ok_iff.mp made with ⟨settings, held, chosen, loaded, generate⟩
      obtain rfl : set = held := Except.ok.inj (loads.symm.trans loaded)
      rcases forall_below_or_exists_first (path.getD defaultDirectory) generated with
        below | ⟨earlier, file, later, rfl, below, leaves⟩
      · have onDisk := Session.allOnDisk_performAll { disk }
          (storingScript descriptors options path (.ok text)).steps
        rw [performed, found, allOnDisk_after_log] at onDisk
        exact ⟨settings, generated, chosen, generate, below,
          Step.foldlM_onDisk_of_allOnDisk onDisk.symm⟩
      · rw [found, Script.after, store_append_cons below leaves] at fine
        cases fine

/-- A request succeeds where the system lets it store all files. -/
theorem exists_run_of_stored {later : Disk} {generated : List GeneratedFile}
    (made : ((Request.generate descriptors options (.directory path)).generated
      (.ok text)).outcome = .ok generated)
    (below : ∀ file ∈ generated,
      (Path.below? (path.getD defaultDirectory) file.path).isSome = true)
    (granted : Step.allOnDisk disk (store (path.getD defaultDirectory) generated).steps =
      (later, none)) :
    ∃ session, Session.run { disk } (storingScript descriptors options path (.ok text)) =
      (session, none) ∧ session.disk = later := by
  rcases exists_storingScript_eq made with ⟨entries, found⟩
  have onDisk : Step.allOnDisk disk
      (storingScript descriptors options path (.ok text)).steps = (later, none) := by
    rw [found, allOnDisk_after_log, granted]
  rcases @Session.exists_run_eq_of_allOnDisk { disk } _ _ onDisk with ⟨_, session, run, ended⟩
  refine ⟨session, ?_, ended⟩
  rw [run, found, Script.after, failure_store below]

/-- A request that succeeds has stored the stubs of each file with services, and each is read as the
last of those that go to its place. So each is there as it was generated, at a place of its own,
exactly where no two of these files have output paths of the same names. -/
theorem delivered_iff (loads : DescriptorSet.load (some descriptors) text = .ok set)
    (done : Session.run { disk } (storingScript descriptors options path (.ok text)) =
      (session, none)) :
    let target (file : GeneratedFile) := Path.join (path.getD defaultDirectory) file.path
    ∃ settings generated, Options.ofText? options = .ok settings
      ∧ List.Forall₂ (Generator.GeneratedFrom settings set.symbolTable)
        (set.files.filter SchemaFile.hasServices) generated
      ∧ (∀ file ∈ generated, ∃ last, lastStored generated file.path = some last
        ∧ session.disk.read (target file) = .ok last.content)
      ∧ (((∀ file ∈ generated, session.disk.read (target file) = .ok file.content)
          ∧ generated.Pairwise fun first second =>
            disk.placeOf (target first) ≠ disk.placeOf (target second)) ↔
        (set.files.filter SchemaFile.hasServices).Pairwise fun first second =>
          Path.names (SchemaFile.outputPath first.name) ≠
            Path.names (SchemaFile.outputPath second.name)) := by
  intro target
  rcases exists_stored_of_run loads done with
    ⟨settings, generated, chosen, generate, below, stored⟩
  have selected := Generator.selected_of_generate_eq_ok generate
  rw [Generator.generate_ofOptions selected] at generate
  have records := Generator.forall₂_generateFiles generate
  have found : ∀ file ∈ generated,
      Path.below? (path.getD defaultDirectory) file.path = some (target file) := by
    intro file member
    rcases Option.isSome_iff_exists.mp (below file member) with ⟨there, found⟩
    rw [found, Path.eq_join_of_below? found]
  have read : ∀ file ∈ generated, ∃ last, lastStored generated file.path = some last
      ∧ session.disk.read (target file) = .ok last.content :=
    fun file member => exists_last_of_store below stored member (found file member)
  refine ⟨settings, generated, chosen, records, read, ?_⟩
  have place_iff : (generated.Pairwise fun first second =>
        disk.placeOf (target first) ≠ disk.placeOf (target second)) ↔
      generated.Pairwise fun first second => Path.names first.path ≠ Path.names second.path := by
    apply List.Pairwise.iff_of_mem
    intro first second firstMember secondMember
    exact not_congr (Disk.placeOf_eq_iff (found first firstMember) (found second secondMember))
  rw [place_iff, ← Generator.pairwise_path_iff records fun first second =>
    Path.names first ≠ Path.names second]
  constructor
  · exact fun both => both.2
  · intro apart
    refine ⟨?_, apart⟩
    intro file member
    rcases read file member with ⟨last, isLast, held⟩
    rw [lastStored_eq_some apart member] at isLast
    rw [held, Option.some.inj isLast]

end Run

/-! ## Two files in an empty directory -/

/-- Two files that fit into the directory for stubs are stored there, the second in place of the
first where both have one path. -/
theorem exists_run_pair {set : DescriptorSet} {first second : SchemaFile}
    (complete : ∀ mention ∈ set.mentions,
      SortedMap.contains set.symbolTable mention.ref = true)
    (pair : set.files.filter SchemaFile.hasServices = [first, second]) {path other : String}
    (firstPath : SchemaFile.outputPath first.name = path)
    (secondPath : SchemaFile.outputPath second.name = other) (fits : FitsOut path)
    (otherFits : FitsOut other) :
    ∃ session text otherText,
      Session.run { disk := Disk.fresh }
          (storingScript "set.json" none (some "out") (.ok set.text)) = (session, none)
        ∧ session.disk = diskWithStubs
          (SortedMap.insertEntry other (.file (.text otherText)) [(path, .file (.text text))])
        ∧ Generator.GeneratedFrom {} set.symbolTable first ⟨path, text⟩
        ∧ Generator.GeneratedFrom {} set.symbolTable second ⟨other, otherText⟩ := by
  rcases Request.exists_generated_pair complete pair firstPath secondPath "set.json"
    (.directory (some "out")) with ⟨text, otherText, made, record, otherRecord⟩
  have free : ∀ node, SortedMap.valueAt? other [(path, Node.file (.text text))] = some node →
      node.isDirectory = false := by
    intro node held
    rcases List.mem_singleton.mp (SortedMap.mem_of_valueAt?_eq_some held) with ⟨⟩
    rfl
  have stored : Step.allOnDisk Disk.fresh
      (store "out" [⟨path, text⟩, ⟨other, otherText⟩]).steps =
        (diskWithStubs
          (SortedMap.insertEntry other (.file (.text otherText)) [(path, .file (.text text))]),
          none) := by
    rw [allOnDisk_store_fresh fits]
    exact allOnDisk_store_out otherFits free otherText []
  have below : ∀ file ∈ [GeneratedFile.mk path text, ⟨other, otherText⟩],
      (Path.below? "out" file.path).isSome = true := by
    simp [fits.1, otherFits.1]
  rcases exists_run_of_stored made below stored with ⟨session, done, ended⟩
  exact ⟨session, text, otherText, done, ended, record, otherRecord⟩

/-- Files with the same text have the same package. -/
theorem goPackage_eq_of_content_eq {options : Options} {table : SymbolTable}
    {first second : SchemaFile} {generated other : GeneratedFile}
    (record : Generator.GeneratedFrom options table first generated)
    (otherRecord : Generator.GeneratedFrom options table second other)
    (oneLine : '\n' ∉ first.goPackage.toList) (otherLine : '\n' ∉ second.goPackage.toList)
    (same : generated.content = other.content) : first.goPackage = second.goPackage := by
  rcases record.content with ⟨stubs, _, text⟩
  rcases otherRecord.content with ⟨otherStubs, _, otherText⟩
  have package := stubs.package_assemble first.goPackage
  have otherPackage := otherStubs.package_assemble second.goPackage
  calc first.goPackage
    _ = (stubs.assemble first.goPackage).package := package.symm
    _ = (otherStubs.assemble second.goPackage).package := by
        apply Go.File.package_eq_of_render_eq (by rwa [package]) (by rwa [otherPackage])
        exact text.symm.trans (same.trans otherText)
    _ = second.goPackage := otherPackage

/-- Of two files with different names each has its stubs in the directory. -/
theorem delivered_of_different_names :
    let shop : SchemaFile := { name := "a.proto", services := [⟨"A", []⟩] }
    let till : SchemaFile := { name := "b.proto", services := [⟨"B", []⟩] }
    let set : DescriptorSet := { files := [shop, till], types := [] }
    DescriptorSet.load (some "set.json") set.text = .ok set
      ∧ ∃ session first second,
        Session.run { disk := Disk.fresh }
            (storingScript "set.json" none (some "out") (.ok set.text)) = (session, none)
          ∧ Generator.GeneratedFrom {} set.symbolTable shop ⟨"a.rpcx.go", first⟩
          ∧ Generator.GeneratedFrom {} set.symbolTable till ⟨"b.rpcx.go", second⟩
          ∧ session.disk.read "out/a.rpcx.go" = .ok first
          ∧ session.disk.read "out/b.rpcx.go" = .ok second := by
  intro shop till set
  have loads : DescriptorSet.load (some "set.json") set.text = .ok set :=
    DescriptorSet.load_text _ set
  have path : SchemaFile.outputPath shop.name = "a.rpcx.go" := by decide
  have otherPath : SchemaFile.outputPath till.name = "b.rpcx.go" := by decide
  have complete : ∀ mention ∈ set.mentions,
      SortedMap.contains set.symbolTable mention.ref = true := nofun
  rcases exists_run_pair complete rfl path otherPath (by decide) (by decide) with
    ⟨session, _, _, done, _⟩
  rcases delivered_iff loads done with ⟨settings, generated, chosen, records, _, delivered⟩
  obtain rfl : {} = settings := Except.ok.inj chosen
  rcases List.forall₂_cons_left_iff.mp records with ⟨⟨_, text⟩, _, record, behind, rfl⟩
  rcases List.forall₂_cons_left_iff.mp behind with ⟨⟨_, otherText⟩, _, otherRecord, nothing, rfl⟩
  obtain rfl := record.path.trans path
  obtain rfl := otherRecord.path.trans otherPath
  have apart : (set.files.filter SchemaFile.hasServices).Pairwise fun first second =>
      Path.names (SchemaFile.outputPath first.name) ≠
        Path.names (SchemaFile.outputPath second.name) := by
    decide
  have read := (delivered.mpr apart).1
  have target : Path.join "out" "a.rpcx.go" = "out/a.rpcx.go" := by decide
  have otherTarget : Path.join "out" "b.rpcx.go" = "out/b.rpcx.go" := by decide
  refine ⟨loads, session, text, otherText, done, record, otherRecord, ?_, ?_⟩
  · rw [← target]
    exact read ⟨"a.rpcx.go", text⟩ (by simp)
  · rw [← otherTarget]
    exact read ⟨"b.rpcx.go", otherText⟩ (by simp)

/-- Two schema files whose names differ in the extension only. -/
def overlappingSet : DescriptorSet where
  files := [{ name := "a", package := "one", services := [⟨"A", []⟩] },
    { name := "a.proto", package := "two", services := [⟨"B", []⟩] }]
  types := []

/-- Files whose names differ in the extension only are stored at one place, and then nothing reads
as the stubs of the first. -/
theorem overwritten_stubs :
    ∃ session first second,
      Session.run { disk := Disk.fresh }
          (storingScript "set.json" none (some "out") (.ok overlappingSet.text)) = (session, none)
        ∧ List.Forall₂ (Generator.GeneratedFrom {} overlappingSet.symbolTable) overlappingSet.files
          [⟨"a.rpcx.go", first⟩, ⟨"a.rpcx.go", second⟩]
        ∧ (overlappingSet.files.map SchemaFile.name).Nodup
        ∧ ∀ path, session.disk.read path ≠ .ok first := by
  have path : SchemaFile.outputPath "a" = "a.rpcx.go" := by decide
  have samePath : SchemaFile.outputPath "a.proto" = "a.rpcx.go" := by decide
  have complete : ∀ mention ∈ overlappingSet.mentions,
      SortedMap.contains overlappingSet.symbolTable mention.ref = true := nofun
  rcases exists_run_pair complete rfl path samePath (by decide) (by decide) with
    ⟨session, first, second, done, ended, record, otherRecord⟩
  refine ⟨session, first, second, done, .cons record (.cons otherRecord .nil), by decide, ?_⟩
  intro path found
  rw [ended] at found
  rcases Disk.exists_mem_files_of_read found with ⟨place, member⟩
  have same : place = ["work", "out", "a.rpcx.go"] ∧ first = second := by
    simpa [diskWithStubs, SortedMap.insertEntry, Node.files, Node.filesOfEntries] using member
  have packages := goPackage_eq_of_content_eq record otherRecord (by decide) (by decide) same.2
  exact absurd packages (by decide)

end RpcStubs.Command
