import Mathlib.Data.List.Forall2
import RpcStubs.Generation.Generator
import RpcStubs.Proofs.Stub.Mention
import RpcStubs.Proofs.Symbol.Entries

/-!
# The outcome of a run

A run of the built-in plugin over a descriptor set fails exactly where some method mentions a type
that no entry of the set registers, and it fails with the first such mention. A run that succeeds
gives one file for each file with services and nothing else (`generate_outcome`).
-/

namespace RpcStubs

open Log (Journaled)

namespace Generator

theorem failure?_generateFiles (options : Options) (table : SymbolTable)
    (files : List SchemaFile) :
    (generateFiles (Stub.plugin options) table files).failure? =
      table.firstMissing? (files.flatMap SchemaFile.mentions) := by
  induction files with
  | nil => rfl
  | cons file rest ih =>
      rw [List.flatMap_cons, table.firstMissing?_append,
        ← Stub.failure?_generate options, ← ih,
        ← Journaled.failure?_noteFailure ((Stub.plugin options).generate file table)
          fun error => [.failed file.name error]]
      apply Journaled.failure?_bind
      intro stubs _
      exact Journaled.failure?_bind_of_fine fun _ => rfl

/-- A generated file is the one of some schema file: it goes where the name of that says, and holds
the stubs that the plugin makes for it. -/
structure GeneratedFrom (options : Options) (table : SymbolTable) (file : SchemaFile)
    (generated : GeneratedFile) : Prop where
  path : generated.path = SchemaFile.outputPath file.name
  content : ∃ stubs, ((Stub.plugin options).generate file table).outcome = .ok (some stubs)
    ∧ generated.content = (stubs.assemble file.goPackage).render

theorem forall₂_generateFiles {options : Options} {table : SymbolTable} {files : List SchemaFile}
    {generated : List GeneratedFile}
    (ok : (generateFiles (Stub.plugin options) table files).outcome = .ok generated) :
    List.Forall₂ (GeneratedFrom options table) (files.filter SchemaFile.hasServices) generated := by
  induction files generalizing generated with
  | nil =>
      obtain rfl := Except.ok.inj ok
      exact .nil
  | cons file rest ih =>
      rcases Journaled.outcome_bind_eq_ok_iff.mp ok with ⟨made, madeOk, restOk⟩
      rcases Journaled.outcome_bind_eq_ok_iff.mp restOk with ⟨later, laterOk, answered⟩
      rw [Journaled.outcome_noteFailure] at madeOk
      obtain rfl := Except.ok.inj answered
      have services := Stub.isSome_of_generate_eq_ok madeOk
      cases made with
      | none =>
          rw [List.filter_cons_of_neg (by simp [← services])]
          exact ih laterOk
      | some stubs =>
          rw [List.filter_cons_of_pos (by simp [← services])]
          exact .cons ⟨rfl, stubs, madeOk, rfl⟩ (ih laterOk)

/-- Generated files go where the names of their schema files say. -/
theorem map_path_eq_of_forall₂ {options : Options} {table : SymbolTable} {files : List SchemaFile}
    {generated : List GeneratedFile}
    (records : List.Forall₂ (GeneratedFrom options table) files generated) :
    generated.map GeneratedFile.path = files.map fun file => SchemaFile.outputPath file.name := by
  induction records with
  | nil => rfl
  | cons record _ ih => rw [List.map_cons, List.map_cons, record.path, ih]

/-- The paths of generated files are related to each other as the output paths of their schema
files. -/
theorem pairwise_path_iff {options : Options} {table : SymbolTable} {files : List SchemaFile}
    {generated : List GeneratedFile}
    (records : List.Forall₂ (GeneratedFrom options table) files generated)
    (R : String → String → Prop) :
    (generated.Pairwise fun first second => R first.path second.path) ↔
      files.Pairwise fun first second =>
        R (SchemaFile.outputPath first.name) (SchemaFile.outputPath second.name) := by
  rw [← List.pairwise_map (f := GeneratedFile.path) (R := R), map_path_eq_of_forall₂ records,
    List.pairwise_map]

/-! ## Whole runs -/

theorem plugin?_ofOptions {options : Options} (selected : options.plugin = "rpcx") :
    (ofOptions options).plugin? = some (Stub.plugin options) := by
  simp [plugin?, ofOptions, register, Stub.plugin, selected]

theorem generate_ofOptions_of_ne {options : Options} (unselected : options.plugin ≠ "rpcx")
    (set : DescriptorSet) :
    (ofOptions options).generate set = .error (.unknownPlugin options.plugin) := by
  have none : (ofOptions options).plugin? = none := by
    simp [plugin?, ofOptions, register, Stub.plugin, Ne.symm unselected]
  rw [generate, run, none, Journaled.outcome_noteFailure]
  rfl

/-- A run that succeeds is one of the built-in plugin. -/
theorem selected_of_generate_eq_ok {options : Options} {set : DescriptorSet}
    {generated : List GeneratedFile} (ok : (ofOptions options).generate set = .ok generated) :
    options.plugin = "rpcx" := by
  by_contra other
  rw [generate_ofOptions_of_ne other] at ok
  cases ok

/-- What a run logs around its files has no part in its outcome. -/
theorem outcome_generateWith (plugin : Plugin) (set : DescriptorSet) :
    (generateWith plugin set).outcome =
      (generateFiles plugin set.symbolTable set.files).outcome := by
  unfold generateWith
  dsimp only
  split <;>
    · simp only [Journaled.outcome_bind, Journaled.outcome_note, Journaled.outcome_pure]
      cases (generateFiles plugin set.symbolTable set.files).outcome <;> rfl

theorem run_of_plugin?_eq_some {generator : Generator} {plugin : Plugin}
    (chosen : generator.plugin? = some plugin) (set : DescriptorSet) :
    generator.run set = generateWith plugin set := by
  rw [run, chosen]

theorem generate_of_plugin?_eq_some {generator : Generator} {plugin : Plugin}
    (chosen : generator.plugin? = some plugin) (set : DescriptorSet) :
    generator.generate set = (generateFiles plugin set.symbolTable set.files).outcome := by
  rw [generate, run_of_plugin?_eq_some chosen, outcome_generateWith]

theorem generate_ofOptions {options : Options} (selected : options.plugin = "rpcx")
    (set : DescriptorSet) :
    (ofOptions options).generate set =
      (generateFiles (Stub.plugin options) set.symbolTable set.files).outcome :=
  generate_of_plugin?_eq_some (plugin?_ofOptions selected) set

theorem generate_eq_error_iff {options : Options} (selected : options.plugin = "rpcx")
    {set : DescriptorSet} {error : GenerationError} :
    (ofOptions options).generate set = .error error ↔
      set.symbolTable.firstMissing? set.mentions = some error := by
  rw [generate_ofOptions selected, ← Journaled.failure?_eq_some_iff, failure?_generateFiles,
    DescriptorSet.mentions]

/-- A run over a set that registers whatever its methods mention gives a file for each file with
services. -/
theorem exists_generated_of_complete {options : Options} (selected : options.plugin = "rpcx")
    {set : DescriptorSet}
    (complete : ∀ mention ∈ set.mentions,
      SortedMap.contains set.symbolTable mention.ref = true) :
    ∃ generated, (ofOptions options).generate set = .ok generated
      ∧ List.Forall₂ (GeneratedFrom options set.symbolTable)
        (set.files.filter SchemaFile.hasServices) generated := by
  cases made : (ofOptions options).generate set with
  | error error =>
      have missing := (generate_eq_error_iff selected).mp made
      rw [SymbolTable.firstMissing?_eq_none_iff.mpr complete] at missing
      cases missing
  | ok generated =>
      rw [generate_ofOptions selected] at made
      exact ⟨generated, rfl, forall₂_generateFiles made⟩

/-- With the built-in plugin, a run fails exactly where some method mentions a reference that is not
that of any entry; its error is then that of the first such mention, in the order of files,
services, methods, input before output. A run that succeeds gives exactly the files of the schema
files with services, in their order. -/
theorem generate_outcome {options : Options} (selected : options.plugin = "rpcx")
    (set : DescriptorSet) :
    ((∃ error, (ofOptions options).generate set = .error error) ↔
      ∃ file ∈ set.files, ∃ service ∈ file.services, ∃ method ∈ service.methods,
        (∀ entry ∈ set.types, entry.ref ≠ method.input)
          ∨ ∀ entry ∈ set.types, entry.ref ≠ method.output) ∧
    (∀ error, (ofOptions options).generate set = .error error →
      ∃ earlier mention later, set.mentions = earlier ++ mention :: later
        ∧ (∀ entry ∈ set.types, entry.ref ≠ mention.ref)
        ∧ (∀ other ∈ earlier, ∃ entry ∈ set.types, entry.ref = other.ref)
        ∧ error = .unresolved mention.place ⟨mention.ref⟩) ∧
    (∀ generated, (ofOptions options).generate set = .ok generated →
      List.Forall₂ (GeneratedFrom options set.symbolTable)
        (set.files.filter SchemaFile.hasServices) generated) := by
  refine ⟨?fails, ?first, ?files⟩
  case fails =>
    simp only [generate_eq_error_iff selected, ← Option.isSome_iff_exists,
      ← Option.ne_none_iff_isSome, ne_eq, SymbolTable.firstMissing?_eq_none_iff, not_forall,
      Bool.not_eq_true, DescriptorSet.contains_symbolTable_eq_false_iff, exists_prop]
    constructor
    · rintro ⟨mention, member, absent⟩
      rcases DescriptorSet.mem_mentions_iff.mp member with
          ⟨file, inSet, service, inFile, method, inService, rfl | rfl⟩
      · exact ⟨file, inSet, service, inFile, method, inService, .inl absent⟩
      · exact ⟨file, inSet, service, inFile, method, inService, .inr absent⟩
    · rintro ⟨file, inSet, service, inFile, method, inService, absent | absent⟩
      · exact ⟨_, DescriptorSet.mem_mentions_iff.mpr
          ⟨file, inSet, service, inFile, method, inService, .inl rfl⟩, absent⟩
      · exact ⟨_, DescriptorSet.mem_mentions_iff.mpr
          ⟨file, inSet, service, inFile, method, inService, .inr rfl⟩, absent⟩
  case first =>
    intro error failed
    have missing := (generate_eq_error_iff selected).mp failed
    rcases SymbolTable.firstMissing?_eq_some_iff.mp missing with
        ⟨earlier, mention, later, split, absent, held, rfl⟩
    refine ⟨earlier, mention, later, split, ?_, ?_, rfl⟩
    · exact DescriptorSet.contains_symbolTable_eq_false_iff.mp absent
    · intro other before
      exact DescriptorSet.contains_symbolTable_iff.mp (held other before)
  case files =>
    intro generated ok
    rw [generate_ofOptions selected] at ok
    exact forall₂_generateFiles ok

/-- A run over a file without services and one that mentions two references without entries fails
with the first of the two. -/
theorem generate_outcome_of_missing_entries :
    let broken : DescriptorSet := {
      files := [{ name := "empty.proto" },
        { name := "shop.proto"
          services := [⟨"Shop", [⟨"Buy", "order", "receipt"⟩, ⟨"Dial", "number", "order"⟩]⟩] }]
      types := [⟨"order", "Order", "", ""⟩] }
    ({} : Options).plugin = "rpcx"
      ∧ (ofOptions {}).generate broken =
        .error (.unresolved ⟨"shop.proto", "Shop", "Buy", .output⟩ ⟨"receipt"⟩) := by
  intro broken
  have selected : ({} : Options).plugin = "rpcx" := rfl
  rcases generate_outcome selected broken with ⟨fails, first, _⟩
  rcases fails.mpr (by decide) with ⟨error, failed⟩
  rcases first error failed with ⟨earlier, mention, later, split, absent, held, rfl⟩
  apply And.intro selected
  rw [failed]
  -- In front of the first missing mention stands exactly the input of `Buy`.
  cases earlier with
  | nil =>
      have front := (List.cons.inj split).1
      exact absurd (congrArg Mention.ref front) (absent ⟨"order", "Order", "", ""⟩ (by decide))
  | cons input rest =>
      have behind := (List.cons.inj split).2
      cases rest with
      | nil => rw [← (List.cons.inj behind).1]
      | cons output others =>
          have registered := held output (by simp)
          rw [← (List.cons.inj behind).1] at registered
          exact absurd registered (by decide)

end Generator

end RpcStubs
