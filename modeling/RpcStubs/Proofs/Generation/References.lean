import Mathlib.Logic.Equiv.Basic
import RpcStubs.Proofs.Generation.Outcome
import RpcStubs.Proofs.Stub.Renaming

/-!
# What a run reads of the registered types

A run looks references up and never looks at them. Under any injective renaming of its references a
set gives the same files, or the same failure about the renamed reference (`generate_rename`). Of the
registered types it reads the last one of each reference that a method mentions and nothing else
(`generate_reads_last_entries`).
-/

namespace RpcStubs

open Log (Journaled)
open Log.Journaled (Agree)

/-! ## Tables of renamed entries -/

/-- Under an injective renaming the last entry of a renamed reference is the last entry of the
reference, renamed. -/
theorem TypeEntry.last?_map_rename {naming : String → String}
    (injective : Function.Injective naming) (entries : List TypeEntry) (ref : String) :
    last? (entries.map (TypeEntry.rename naming)) (naming ref) =
      (last? entries ref).map (TypeEntry.rename naming) := by
  have sameRef : ∀ entry : TypeEntry,
      ((entry.rename naming).ref = naming ref) = (entry.ref = ref) :=
    fun entry => propext injective.eq_iff
  simp only [last?, ← List.map_reverse, List.find?_map, Function.comp_def, sameRef]

theorem DescriptorSet.find?_symbolTable (set : DescriptorSet) (ref : String) :
    set.symbolTable.find? ref = (TypeEntry.last? set.types ref).map TypeEntry.goType :=
  SymbolTable.find?_ofEntries set.types ref

theorem DescriptorSet.find?_symbolTable_rename {naming : String → String}
    (injective : Function.Injective naming) (set : DescriptorSet) (ref : String) :
    (set.rename naming).symbolTable.find? (naming ref) = set.symbolTable.find? ref := by
  have sameType : TypeEntry.goType ∘ TypeEntry.rename naming = TypeEntry.goType := rfl
  rw [find?_symbolTable, find?_symbolTable, DescriptorSet.rename,
    TypeEntry.last?_map_rename injective, Option.map_map, sameType]

namespace Generator

/-! ## Runs that agree -/

theorem agree_generateFiles (options : Options) {table other : SymbolTable}
    {naming : String → String} {files : List SchemaFile}
    (agrees : table.AgreesOn other naming (files.flatMap SchemaFile.mentions)) :
    Agree (GenerationError.rename naming) Eq
      (generateFiles (Stub.plugin options) table files).outcome
      (generateFiles (Stub.plugin options) other (files.map (SchemaFile.rename naming))).outcome := by
  induction files with
  | nil => exact .ok rfl
  | cons file rest ih =>
      rw [List.flatMap_cons] at agrees
      have fileAgrees : table.AgreesOn other naming file.mentions := fun mention member =>
        agrees mention (List.mem_append_left _ member)
      have restAgrees : table.AgreesOn other naming (rest.flatMap SchemaFile.mentions) :=
        fun mention member => agrees mention (List.mem_append_right _ member)
      rw [List.map_cons, generateFiles, generateFiles]
      refine Agree.bind (?made : Agree _ Eq _ _) ?others
      case made =>
        rw [Journaled.outcome_noteFailure, Journaled.outcome_noteFailure]
        exact Stub.agree_generate options fileAgrees
      case others =>
        rintro made _ rfl
        refine Agree.bind (ih restAgrees) ?_
        rintro later _ rfl
        exact .ok rfl

/-- A set with renamed mentions whose table agrees on them gives the files of the first, or its
failure renamed. -/
theorem generate_of_agreesOn (options : Options) {naming : String → String}
    {set other : DescriptorSet} (files : other.files = set.files.map (SchemaFile.rename naming))
    (agrees : set.symbolTable.AgreesOn other.symbolTable naming set.mentions) :
    (ofOptions options).generate other =
      ((ofOptions options).generate set).mapError (GenerationError.rename naming) := by
  by_cases selected : options.plugin = "rpcx"
  · rw [generate_ofOptions selected, generate_ofOptions selected, files]
    exact Log.Journaled.agree_eq_iff.mp (agree_generateFiles options agrees)
  · rw [generate_ofOptions_of_ne selected, generate_ofOptions_of_ne selected]
    rfl

/-! ## References are opaque -/

/-- Renaming all references of a set injectively changes nothing but the reference that a failure
names: where a run over the set gives files, one over the renamed set gives the same, and where it
fails, the other fails at the same place with the image of the missing reference. -/
theorem generate_rename (options : Options) {naming : String → String}
    (injective : Function.Injective naming) (set : DescriptorSet) :
    (∀ generated, (ofOptions options).generate set = .ok generated →
      (ofOptions options).generate (set.rename naming) = .ok generated) ∧
    (∀ place missing, (ofOptions options).generate set = .error (.unresolved place ⟨missing⟩) →
      (ofOptions options).generate (set.rename naming) =
        .error (.unresolved place ⟨naming missing⟩)) ∧
    (∀ name, (ofOptions options).generate set = .error (.unknownPlugin name) →
      (ofOptions options).generate (set.rename naming) = .error (.unknownPlugin name)) := by
  have agrees : set.symbolTable.AgreesOn (set.rename naming).symbolTable naming set.mentions :=
    fun mention _ => set.find?_symbolTable_rename injective mention.ref
  have renamed := generate_of_agreesOn options (rfl : (set.rename naming).files = _) agrees
  rw [renamed]
  refine ⟨?files, ?missing, ?plugin⟩
  case files =>
    intro generated ok
    rw [ok]
    rfl
  case missing =>
    intro place missing failed
    rw [failed]
    rfl
  case plugin =>
    intro name failed
    rw [failed]
    rfl

/-- Exchanging two references whose types share a package name exchanges their places in the table,
and changes neither the files of a run nor the place at which a run fails. -/
theorem generate_rename_of_exchanged_references :
    let naming : String → String := Equiv.swap "a" "z"
    let file : SchemaFile :=
      { name := "shop.proto", services := [⟨"Shop", [⟨"Buy", "a", "z"⟩]⟩] }
    let set : DescriptorSet := {
      files := [file]
      types := [⟨"a", "Item", "item", "shop/v1/item"⟩, ⟨"z", "Item", "item", "shop/v2/item"⟩] }
    let broken : DescriptorSet := { set with types := [⟨"a", "Item", "item", "shop/v1/item"⟩] }
    (∃ generated, (ofOptions {}).generate set = .ok generated
      ∧ (ofOptions {}).generate (set.rename naming) = .ok generated)
      ∧ (ofOptions {}).generate (broken.rename naming) =
        .error (.unresolved ⟨"shop.proto", "Shop", "Buy", .output⟩ ⟨"a"⟩) := by
  intro naming file set broken
  have injective : Function.Injective naming := (Equiv.swap "a" "z").injective
  have selected : ({} : Options).plugin = "rpcx" := rfl
  have complete : set.symbolTable.firstMissing? set.mentions = none := by decide
  constructor
  · cases outcome : (ofOptions {}).generate set with
    | error error =>
        have missing := (generate_eq_error_iff selected).mp outcome
        rw [complete] at missing
        contradiction
    | ok generated =>
        exact ⟨generated, rfl, (generate_rename {} injective set).1 generated outcome⟩
  · have failed : (ofOptions {}).generate broken =
        .error (.unresolved ⟨"shop.proto", "Shop", "Buy", .output⟩ ⟨"z"⟩) :=
      (generate_eq_error_iff selected).mpr (by decide)
    have image : naming "z" = "a" := Equiv.swap_apply_right "a" "z"
    rw [(generate_rename {} injective broken).2.1 _ _ failed, image]

/-! ## Only the last entries of mentioned references count -/

/-- Some files mention a reference: it is the input or the output of one of their methods. -/
def Mentions (files : List SchemaFile) (ref : String) : Prop :=
  ∃ file ∈ files, ∃ service ∈ file.services, ∃ method ∈ service.methods,
    ref = method.input ∨ ref = method.output

theorem mentions_of_mem {set : DescriptorSet} {mention : Mention} (member : mention ∈ set.mentions) :
    Mentions set.files mention.ref := by
  rcases DescriptorSet.mem_mentions_iff.mp member with
    ⟨file, inSet, service, inFile, method, inService, rfl | rfl⟩
  · exact ⟨file, inSet, service, inFile, method, inService, .inl rfl⟩
  · exact ⟨file, inSet, service, inFile, method, inService, .inr rfl⟩

/-- Sets with the same files give the same result if the last entry of every mentioned reference
stands for the same type in both. -/
theorem generate_eq_of_last_eq (options : Options) {first second : DescriptorSet}
    (files : first.files = second.files)
    (types : ∀ ref, Mentions first.files ref →
      (TypeEntry.last? first.types ref).map TypeEntry.goType =
        (TypeEntry.last? second.types ref).map TypeEntry.goType) :
    (ofOptions options).generate first = (ofOptions options).generate second := by
  have sameFiles : second.files = first.files.map (SchemaFile.rename id) := by
    rw [SchemaFile.rename_id, List.map_id, files]
  have agrees : first.symbolTable.AgreesOn second.symbolTable id first.mentions := by
    intro mention member
    rw [DescriptorSet.find?_symbolTable, DescriptorSet.find?_symbolTable, id,
      types _ (mentions_of_mem member)]
  rw [generate_of_agreesOn options sameFiles agrees, GenerationError.rename_id]
  cases (ofOptions options).generate first <;> rfl

/-- A run reads the files of a set and, for each reference that they mention, what the last entry of
it stands for: sets that have these in common give the same result. So an entry may be added or
removed where no file mentions its reference or a later entry has it, and entries of different
references may change places. -/
theorem generate_reads_last_entries (options : Options) :
    (∀ first second : DescriptorSet, first.files = second.files →
      (∀ ref, Mentions first.files ref →
        (TypeEntry.last? first.types ref).map TypeEntry.goType =
          (TypeEntry.last? second.types ref).map TypeEntry.goType) →
      (ofOptions options).generate first = (ofOptions options).generate second) ∧
    (∀ files earlier entry later,
      ¬ Mentions files entry.ref ∨ (∃ other ∈ later, other.ref = entry.ref) →
      (ofOptions options).generate ⟨files, earlier ++ entry :: later⟩ =
        (ofOptions options).generate ⟨files, earlier ++ later⟩) ∧
    (∀ files earlier entry other later, entry.ref ≠ other.ref →
      (ofOptions options).generate ⟨files, earlier ++ entry :: other :: later⟩ =
        (ofOptions options).generate ⟨files, earlier ++ other :: entry :: later⟩) := by
  refine ⟨fun first second => generate_eq_of_last_eq options, ?added, ?exchanged⟩
  case added =>
    intro files earlier entry later idle
    refine generate_eq_of_last_eq options (by rfl) ?_
    intro ref mentioned
    have same : TypeEntry.last? (entry :: later) ref = TypeEntry.last? later ref := by
      rcases idle with unmentioned | ⟨other, behind, same⟩
      · exact TypeEntry.last?_cons_of_ne (fun same => unmentioned (same ▸ mentioned)) later
      · exact TypeEntry.last?_cons_of_shadowed behind same ref
    simp only [TypeEntry.last?_append, same]
  case exchanged =>
    intro files earlier entry other later different
    refine generate_eq_of_last_eq options (by rfl) ?_
    intro ref _
    simp only [TypeEntry.last?_append, TypeEntry.last?_swap different]

/-- Entries in another order, one of a reference that no method mentions and one behind which the
same reference comes again leave a run as it is. -/
theorem generate_reads_last_entries_of_shuffled_types :
    let files : List SchemaFile :=
      [{ name := "shop.proto", services := [⟨"Shop", [⟨"Buy", "order", "receipt"⟩]⟩] }]
    let order : TypeEntry := ⟨"order", "Order", "shop", "shop/api"⟩
    let receipt : TypeEntry := ⟨"receipt", "Receipt", "shop", "shop/v2/api"⟩
    (ofOptions {}).generate ⟨files, [order, receipt]⟩ =
        (ofOptions {}).generate
          ⟨files, [⟨"receipt", "Old", "", ""⟩, receipt, ⟨"refund", "Refund", "", ""⟩, order]⟩
      ∧ (ofOptions {}).generate ⟨files, [receipt, order, receipt]⟩ =
        (ofOptions {}).generate ⟨files, [order, receipt]⟩
      ∧ (ofOptions {}).generate ⟨files, [order, receipt]⟩ =
        (ofOptions {}).generate ⟨files, [receipt, order]⟩ := by
  intro files order receipt
  rcases generate_reads_last_entries {} with ⟨sameLast, idle, exchanged⟩
  refine ⟨sameLast _ _ rfl ?_, idle files [] receipt [order, receipt] (.inr ?_),
    exchanged files [] order receipt [] (by decide)⟩
  · rintro ref ⟨file, inFiles, service, inFile, method, inService, mentioned⟩
    obtain rfl := List.mem_singleton.mp inFiles
    obtain rfl := List.mem_singleton.mp inFile
    obtain rfl := List.mem_singleton.mp inService
    rcases mentioned with rfl | rfl <;> decide
  · exact ⟨receipt, by simp, rfl⟩

end Generator

end RpcStubs
