import Mathlib.Data.List.Perm.Basic
import RpcStubs.Proofs.Generation.Outcome

/-!
# Files apart from each other

A run takes up each file with a scope of its own and hands nothing on to the next. A run over some
files and then others therefore comes to what two runs come to, one over each of the parts, and the
files of a run are those that runs over single files give, in the order of these
(`generate_each_file_apart`).
-/

namespace RpcStubs.Generator

open Log (Journaled)

/-! ## What two runs come to -/

/-- The outcome of a run and then another: the first failure, or else the files of both. -/
def joined {ε α : Type} : Except ε (List α) → Except ε (List α) → Except ε (List α)
  | .error error, _ => .error error
  | .ok _, .error error => .error error
  | .ok first, .ok second => .ok (first ++ second)

section Joined

variable {ε α : Type}

theorem joined_nil_left (outcome : Except ε (List α)) : joined (.ok []) outcome = outcome := by
  cases outcome <;> rfl

theorem joined_assoc (first second third : Except ε (List α)) :
    joined (joined first second) third = joined first (joined second third) := by
  cases first with
  | error error => rfl
  | ok earlier =>
      cases second with
      | error error => rfl
      | ok middle =>
          cases third with
          | error error => rfl
          | ok later => exact congrArg Except.ok (List.append_assoc earlier middle later)

theorem joined_eq_ok_iff {first second : Except ε (List α)} {items : List α} :
    joined first second = .ok items ↔
      ∃ earlier later, first = .ok earlier ∧ second = .ok later ∧ items = earlier ++ later := by
  cases first <;> cases second <;> simp [joined, eq_comm]

end Joined

/-! ## Runs over parts of the files -/

section Parts

variable (plugin : Plugin) (table : SymbolTable)

/-- A run over a file alone has no part of any other file in it, so a run over more files is this
one with the run over the others behind it. -/
theorem outcome_generateFiles_cons (file : SchemaFile) (rest : List SchemaFile) :
    (generateFiles plugin table (file :: rest)).outcome =
      joined (generateFiles plugin table [file]).outcome
        (generateFiles plugin table rest).outcome := by
  simp only [generateFiles, Journaled.outcome_bind, Journaled.outcome_noteFailure,
    Journaled.outcome_pure]
  cases (plugin.generate file table).outcome with
  | error error => rfl
  | ok stubs =>
      cases (generateFiles plugin table rest).outcome with
      | error error => rfl
      | ok later => simp [bind, Except.bind, joined]

theorem outcome_generateFiles_append (earlier later : List SchemaFile) :
    (generateFiles plugin table (earlier ++ later)).outcome =
      joined (generateFiles plugin table earlier).outcome
        (generateFiles plugin table later).outcome := by
  induction earlier with
  | nil => exact (joined_nil_left _).symm
  | cons file rest ih =>
      rw [List.cons_append, outcome_generateFiles_cons, ih, ← joined_assoc,
        ← outcome_generateFiles_cons]

/-- A run gives files exactly where runs over each file alone do, and gives these one after the
other. -/
theorem generateFiles_eq_ok_iff {files : List SchemaFile} {generated : List GeneratedFile} :
    (generateFiles plugin table files).outcome = .ok generated ↔
      ∃ parts,
        List.Forall₂ (fun file part => (generateFiles plugin table [file]).outcome = .ok part)
          files parts
          ∧ generated = parts.flatten := by
  induction files generalizing generated with
  | nil =>
      rw [generateFiles, Journaled.outcome_pure, Except.ok.injEq]
      simp [List.forall₂_nil_left_iff, eq_comm]
  | cons file rest ih =>
      simp only [outcome_generateFiles_cons plugin table file rest, joined_eq_ok_iff, ih,
        List.forall₂_cons_left_iff]
      constructor
      · rintro ⟨part, later, partOk, ⟨parts, partsOk, rfl⟩, rfl⟩
        exact ⟨part :: parts, ⟨part, parts, partOk, partsOk, rfl⟩, List.flatten_cons.symm⟩
      · rintro ⟨_, ⟨part, parts, partOk, partsOk, rfl⟩, rfl⟩
        exact ⟨part, parts.flatten, partOk, ⟨parts, partsOk, rfl⟩, List.flatten_cons⟩

end Parts

/-! ## Whole runs -/

section Runs

variable {options : Options} {types : List TypeEntry} {files : List SchemaFile}

theorem generate_files (selected : options.plugin = "rpcx") (types : List TypeEntry)
    (files : List SchemaFile) :
    (ofOptions options).generate ⟨files, types⟩ =
      (generateFiles (Stub.plugin options) (SymbolTable.ofEntries types) files).outcome :=
  generate_ofOptions selected ⟨files, types⟩

theorem generate_append (options : Options) (types : List TypeEntry)
    (earlier later : List SchemaFile) :
    (ofOptions options).generate ⟨earlier ++ later, types⟩ =
      joined ((ofOptions options).generate ⟨earlier, types⟩)
        ((ofOptions options).generate ⟨later, types⟩) := by
  by_cases selected : options.plugin = "rpcx"
  · simp only [generate_files selected]
    apply outcome_generateFiles_append
  · simp only [generate_ofOptions_of_ne selected]
    rfl

theorem generate_eq_ok_iff_parts (selected : options.plugin = "rpcx")
    {generated : List GeneratedFile} :
    (ofOptions options).generate ⟨files, types⟩ = .ok generated ↔
      ∃ parts,
        List.Forall₂ (fun file part => (ofOptions options).generate ⟨[file], types⟩ = .ok part)
          files parts
          ∧ generated = parts.flatten := by
  simp only [generate_files selected]
  apply generateFiles_eq_ok_iff

/-- With its files in another order a run that gives files gives the same ones in another order. -/
theorem exists_generate_of_perm {reordered : List SchemaFile} (moved : files.Perm reordered)
    {generated : List GeneratedFile}
    (ok : (ofOptions options).generate ⟨files, types⟩ = .ok generated) :
    ∃ regenerated, (ofOptions options).generate ⟨reordered, types⟩ = .ok regenerated
      ∧ generated.Perm regenerated := by
  have selected := selected_of_generate_eq_ok ok
  rcases (generate_eq_ok_iff_parts selected).mp ok with ⟨parts, alone, rfl⟩
  rcases List.perm_comp_forall₂ moved.symm alone with ⟨movedParts, movedAlone, partsMoved⟩
  exact ⟨movedParts.flatten, (generate_eq_ok_iff_parts selected).mpr ⟨movedParts, movedAlone, rfl⟩,
    partsMoved.symm.flatten⟩

end Runs

/-- A run over some files and then others fails as the run over the first files does, else as the
run over the others does, and else gives the files of both runs one after the other. What a run
gives is what runs over each file alone give, file by file, so with its files in another order it
gives the same files, and these in another order. -/
theorem generate_each_file_apart (options : Options) (types : List TypeEntry) :
    (∀ earlier later, (ofOptions options).generate ⟨earlier ++ later, types⟩ =
      joined ((ofOptions options).generate ⟨earlier, types⟩)
        ((ofOptions options).generate ⟨later, types⟩)) ∧
    (∀ files generated, (ofOptions options).generate ⟨files, types⟩ = .ok generated →
      ∃ parts,
        List.Forall₂ (fun file part => (ofOptions options).generate ⟨[file], types⟩ = .ok part)
          files parts
          ∧ generated = parts.flatten) ∧
    (∀ files reordered generated, files.Perm reordered →
      (ofOptions options).generate ⟨files, types⟩ = .ok generated →
        ∃ regenerated, (ofOptions options).generate ⟨reordered, types⟩ = .ok regenerated
          ∧ generated.Perm regenerated) := by
  refine ⟨generate_append options types, ?alone, ?reordered⟩
  case alone =>
    intro files generated ok
    exact (generate_eq_ok_iff_parts (selected_of_generate_eq_ok ok)).mp ok
  case reordered =>
    intro files reordered generated moved ok
    exact exists_generate_of_perm moved ok

/-- Two files whose types come from different packages of one name may change places: neither takes
the name from the other. -/
theorem generate_each_file_apart_of_shared_package :
    let first : SchemaFile :=
      { name := "shop.proto", services := [⟨"Shop", [⟨"Buy", "old", "old"⟩]⟩] }
    let second : SchemaFile :=
      { name := "till.proto", services := [⟨"Till", [⟨"Pay", "new", "new"⟩]⟩] }
    let types : List TypeEntry :=
      [⟨"old", "Item", "item", "shop/v1/item"⟩, ⟨"new", "Item", "item", "shop/v2/item"⟩]
    ∃ generated regenerated,
      (ofOptions {}).generate ⟨[first, second], types⟩ = .ok generated
        ∧ [first, second].Perm [second, first]
        ∧ (ofOptions {}).generate ⟨[second, first], types⟩ = .ok regenerated
        ∧ generated.Perm regenerated := by
  intro first second types
  have selected : ({} : Options).plugin = "rpcx" := rfl
  let set : DescriptorSet := ⟨[first, second], types⟩
  have complete : ∀ mention ∈ set.mentions,
      SortedMap.contains set.symbolTable mention.ref = true := by
    decide
  rcases exists_generated_of_complete selected complete with ⟨generated, ok, _⟩
  have moved : [first, second].Perm [second, first] := List.Perm.swap second first []
  rcases (generate_each_file_apart {} types).2.2 _ _ _ moved ok with ⟨regenerated, again, same⟩
  exact ⟨generated, regenerated, ok, moved, again, same⟩

end RpcStubs.Generator
