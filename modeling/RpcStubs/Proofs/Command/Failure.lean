import RpcStubs.Proofs.Command.Script

/-!
# What a failure leaves behind

Where the system refuses nothing, a request for stubs in a directory fails for one of two reasons.
Either something is wrong with the request or its descriptor set, which is told in a report before
anything is stored; or a generated file would leave the directory, and then exactly the files in
front of it are stored (`failed_storing`).
-/

namespace RpcStubs.Command

open Log (Journaled)

section Failed

variable {descriptors : String} {options path : Option String} {text : Except String String}
  {failure : Failure}

/-- A script that fails touches the disk only to store the files in front of the one it fails
with. -/
theorem storingScript_of_failure
    (failed : (storingScript descriptors options path text).failure = some failure) :
    let request := Request.generate descriptors options (.directory path)
    let directory := path.getD defaultDirectory
    ∃ earlier : List GeneratedFile,
      ((request.generated text).outcome = .error failure ∧ earlier = []
        ∨ ∃ file later, (request.generated text).outcome = .ok (earlier ++ file :: later)
          ∧ Path.below? directory file.path = none ∧ failure = .escapes file.path)
      ∧ (∀ file ∈ earlier, (Path.below? directory file.path).isSome = true)
      ∧ (storingScript descriptors options path text).steps.filter Step.touchesDisk =
        (store directory earlier).steps.filter Step.touchesDisk := by
  intro request directory
  cases made : (request.generated text).outcome with
  | error error =>
      rw [storingScript_of_error made] at failed ⊢
      obtain rfl := Option.some.inj failed
      refine ⟨[], .inl ⟨rfl, rfl⟩, nofun, ?_⟩
      exact filter_touchesDisk_map_log _
  | ok files =>
      rcases exists_storingScript_eq made with ⟨entries, found⟩
      rw [found] at failed ⊢
      rcases forall_below_or_exists_first directory files with
        below | ⟨earlier, file, later, rfl, below, leaves⟩
      · cases (failure_store below).symm.trans failed
      · rw [Script.after, store_append_cons below leaves] at failed ⊢
        obtain rfl := Option.some.inj failed
        refine ⟨earlier, .inr ⟨file, later, rfl, leaves, rfl⟩, below, ?_⟩
        rw [List.filter_append, filter_touchesDisk_map_log, List.nil_append]

/-- Where the system refuses nothing, a request for stubs in a directory that fails has stored some
of the generated files and has done nothing else to the disk. If its failure is told in a report
these are no files at all. Otherwise they are those in front of the first file that would leave the
directory, so the disk was not touched exactly where that file is the first of all. -/
theorem failed_storing {disk : Disk}
    (granted : (Session.performAll { disk }
      (storingScript descriptors options path text).steps).2 = none)
    (failed : (Session.run { disk } (storingScript descriptors options path text)).2 =
      some failure) :
    let request := Request.generate descriptors options (.directory path)
    let directory := path.getD defaultDirectory
    let script := storingScript descriptors options path text
    ∃ earlier : List GeneratedFile,
      ((∃ diagnostic, failure = .told diagnostic) ∧ earlier = []
        ∨ ∃ file later, (request.generated text).outcome = .ok (earlier ++ file :: later)
          ∧ Path.below? directory file.path = none ∧ failure = .escapes file.path)
      ∧ (∀ file ∈ earlier, (Path.below? directory file.path).isSome = true)
      ∧ (Session.run { disk } script).1.disk =
        (Step.allOnDisk disk (store directory earlier).steps).1
      ∧ ((∀ step ∈ script.steps, step.touchesDisk = false) ↔ earlier = []) := by
  intro request directory script
  rw [Session.run_of_granted granted] at failed
  rcases storingScript_of_failure failed with ⟨earlier, reason, below, touching⟩
  refine ⟨earlier, ?_, below, ?_, ?_⟩
  · rcases reason with ⟨faulty, nothing⟩ | escaping
    · exact .inl ⟨Request.told_of_generated faulty, nothing⟩
    · exact .inr escaping
  · rw [Session.run_of_granted granted, ← Step.allOnDisk_filter _ (store directory earlier).steps,
      ← touching, Step.allOnDisk_filter]
    exact congrArg Prod.fst (Session.allOnDisk_performAll { disk } _)
  · rw [← untouched_store_iff below, ← touching, List.filter_eq_nil_iff]
    simp only [Bool.not_eq_true]
    rfl

end Failed

/-- A faulty option leaves the disk as it was. -/
theorem failed_storing_of_unknown_option :
    let script := storingScript "set.json" (some "colour=red") none (.ok "")
    (∃ diagnostic, (Session.run { disk := Disk.fresh } script).2 = some (.told diagnostic))
      ∧ (Session.run { disk := Disk.fresh } script).1.disk = Disk.fresh := by
  intro script
  have faulty : Options.ofText? (some "colour=red") = .error (.unknown "colour") := by decide
  have told : ((Request.generate "set.json" (some "colour=red") (.directory none)).generated
      (.ok "")).outcome = .error (.told (OptionError.unknown "colour").diagnostic) := by
    apply Journaled.outcome_bind_eq_error_iff.mpr
    left
    rw [Journaled.outcome_ofExcept]
    exact mapError_eq_error_iff.mpr ⟨_, faulty, rfl⟩
  have found : script = _ := storingScript_of_error told
  have untouched : Step.allOnDisk Disk.fresh script.steps = (Disk.fresh, none) := by
    rw [found, allOnDisk_map_log]
  rcases @Session.exists_run_eq_of_allOnDisk { disk := Disk.fresh } _ _ untouched with
    ⟨granted, ended, run, _⟩
  have failed : (Session.run { disk := Disk.fresh } script).2 =
      some (.told (OptionError.unknown "colour").diagnostic) := by
    rw [run, found]
  rcases failed_storing granted failed with ⟨earlier, reason, _, disk, _⟩
  rcases reason with ⟨told, rfl⟩ | ⟨_, _, _, _, escapes⟩
  · exact ⟨⟨_, failed⟩, disk⟩
  · cases escapes

/-- Two schema files, the second of which lies beside the directory of the first. -/
def strayingSet : DescriptorSet where
  files := [{ name := "a.proto", services := [⟨"A", []⟩] },
    { name := "../b.proto", services := [⟨"B", []⟩] }]
  types := []

/-- A file that would leave the directory does not keep the one in front of it from being
written. -/
theorem partial_output_of_escaping_file :
    let script := storingScript "set.json" none (some "out") (.ok (DescriptorSet.text strayingSet))
    (Session.performAll { disk := Disk.fresh } script.steps).2 = none
      ∧ (Session.run { disk := Disk.fresh } script).2 = some (.escapes "../b.rpcx.go")
      ∧ Disk.fresh.read "out/a.rpcx.go" = .error .missing
      ∧ ∃ content,
        (Session.run { disk := Disk.fresh } script).1.disk.read "out/a.rpcx.go" = .ok content := by
  intro script
  have complete : ∀ mention ∈ strayingSet.mentions,
      SortedMap.contains strayingSet.symbolTable mention.ref = true := nofun
  have path : SchemaFile.outputPath "a.proto" = "a.rpcx.go" := by decide
  have strayingPath : SchemaFile.outputPath "../b.proto" = "../b.rpcx.go" := by decide
  rcases Request.exists_generated_pair complete rfl path strayingPath "set.json"
    (.directory (some "out")) with ⟨content, other, generated, _⟩
  have fits : FitsOut "a.rpcx.go" := by decide
  have leaves : Path.below? "out" "../b.rpcx.go" = none := by decide
  have stored : store "out" [⟨"a.rpcx.go", content⟩, ⟨"../b.rpcx.go", other⟩] =
      { steps := (store "out" [⟨"a.rpcx.go", content⟩]).steps
        failure := some (.escapes "../b.rpcx.go") } :=
    @store_append_cons "out" [⟨"a.rpcx.go", content⟩] ⟨"../b.rpcx.go", other⟩ (by simp [fits.1])
      leaves []
  obtain ⟨entries, found⟩ : ∃ entries : List Log.Entry, script = .after (entries.map .log) _ :=
    exists_storingScript_eq generated
  rw [Option.getD_some, stored] at found
  have ended : Step.allOnDisk Disk.fresh script.steps =
      (diskWithStubs [("a.rpcx.go", .file (.text content))], none) := by
    rw [found, allOnDisk_after_log]
    exact allOnDisk_store_fresh fits content []
  rcases @Session.exists_run_eq_of_allOnDisk { disk := Disk.fresh } _ _ ended with
    ⟨granted, session, run, disk⟩
  refine ⟨granted, ?_, rfl, content, ?_⟩
  · rw [run, found, Script.after]
  · rw [run, disk]
    exact read_out fits (by simp [SortedMap.valueAt?])

end RpcStubs.Command
