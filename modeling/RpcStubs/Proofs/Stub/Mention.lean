import RpcStubs.Proofs.Log.Failure
import RpcStubs.Proofs.Sorted.Lookup
import RpcStubs.Stub.Plugin

/-!
# Mentions of types

The methods of a file mention types by reference, each at a place of its own. Listed in the order of
services, methods, input before output, the mentions say what resolving the file fails with: the
first of them that the table does not hold, whatever scope it is resolved in. Stubs are made exactly
for files with services whose mentions the table holds (`exists_generate_eq_ok_iff`).
-/

namespace RpcStubs

/-- A reference at the place where a method makes it. -/
structure Mention where
  place : Place
  ref : String
deriving Repr, DecidableEq, Inhabited

/-- The mentions of a method: its input, then its output. -/
def Method.mentions (file service : String) (method : Method) : List Mention :=
  [⟨⟨file, service, method.name, .input⟩, method.input⟩,
    ⟨⟨file, service, method.name, .output⟩, method.output⟩]

/-- The mentions of a service, method by method. -/
def Service.mentions (file : String) (service : Service) : List Mention :=
  service.methods.flatMap (Method.mentions file service.name)

/-- The mentions of a file, service by service. -/
def SchemaFile.mentions (file : SchemaFile) : List Mention :=
  file.services.flatMap (Service.mentions file.name)

/-- The mentions of a descriptor set, file by file. -/
def DescriptorSet.mentions (set : DescriptorSet) : List Mention :=
  set.files.flatMap SchemaFile.mentions

/-- Every method of a set makes two mentions, and there are no others. -/
theorem DescriptorSet.mem_mentions_iff {set : DescriptorSet} {mention : Mention} :
    mention ∈ set.mentions ↔
      ∃ file ∈ set.files, ∃ service ∈ file.services, ∃ method ∈ service.methods,
        mention = ⟨⟨file.name, service.name, method.name, .input⟩, method.input⟩
          ∨ mention = ⟨⟨file.name, service.name, method.name, .output⟩, method.output⟩ := by
  simp [mentions, SchemaFile.mentions, Service.mentions, Method.mentions]

/-- The failure of a mention that no table entry answers. -/
def Mention.failure (mention : Mention) : GenerationError :=
  .unresolved mention.place ⟨mention.ref⟩

/-- The failure of the first mention that a table does not hold. -/
def SymbolTable.firstMissing? (table : SymbolTable) (mentions : List Mention) :
    Option GenerationError :=
  (mentions.find? fun mention => !SortedMap.contains table mention.ref).map Mention.failure

namespace SymbolTable

theorem firstMissing?_append (table : SymbolTable) (earlier later : List Mention) :
    table.firstMissing? (earlier ++ later) =
      (table.firstMissing? earlier).or (table.firstMissing? later) := by
  simp only [firstMissing?, List.find?_append, Option.map_or]

theorem firstMissing?_flatMap {α : Type} (table : SymbolTable) (mentions : α → List Mention)
    (items : List α) :
    table.firstMissing? (items.flatMap mentions) =
      items.findSome? fun item => table.firstMissing? (mentions item) := by
  induction items with
  | nil => rfl
  | cons item rest ih =>
      rw [List.flatMap_cons, firstMissing?_append, ih, List.findSome?_cons]
      cases table.firstMissing? (mentions item) <;> rfl

theorem firstMissing?_singleton (table : SymbolTable) (mention : Mention) :
    table.firstMissing? [mention] =
      if (table.find? mention.ref).isSome then none else some mention.failure := by
  rw [firstMissing?, List.find?_singleton, SortedMap.contains_eq_isSome_find?]
  cases table.find? mention.ref <;> simp

theorem firstMissing?_eq_none_iff {table : SymbolTable} {mentions : List Mention} :
    table.firstMissing? mentions = none ↔
      ∀ mention ∈ mentions, SortedMap.contains table mention.ref = true := by
  simp [firstMissing?]

/-- The first missing mention stands behind mentions that the table holds. -/
theorem firstMissing?_eq_some_iff {table : SymbolTable} {mentions : List Mention}
    {error : GenerationError} :
    table.firstMissing? mentions = some error ↔
      ∃ earlier mention later, mentions = earlier ++ mention :: later
        ∧ SortedMap.contains table mention.ref = false
        ∧ (∀ other ∈ earlier, SortedMap.contains table other.ref = true)
        ∧ error = mention.failure := by
  simp only [firstMissing?, Option.map_eq_some_iff, List.find?_eq_some_iff_append,
    Bool.not_eq_true', Bool.not_not]
  constructor
  · rintro ⟨mention, ⟨absent, earlier, later, split, held⟩, rfl⟩
    exact ⟨earlier, mention, later, split, absent, by simpa using held, rfl⟩
  · rintro ⟨earlier, mention, later, split, absent, held, rfl⟩
    exact ⟨mention, ⟨absent, earlier, later, split, by simpa using held⟩, rfl⟩

end SymbolTable

namespace Stub

open Log (Journaled)

section Resolve

variable (table : SymbolTable) (file : String)

theorem failure?_resolveAt (mention : Mention) (scope : ImportScope) :
    (resolveAt table mention.place mention.ref scope).failure? =
      table.firstMissing? [mention] := by
  rw [table.firstMissing?_singleton]
  cases found : table.find? mention.ref with
  | none =>
      have missing : scope.resolve table mention.ref = .error ⟨mention.ref⟩ :=
        ImportScope.resolve_eq_error_iff.mpr ⟨found, rfl⟩
      rw [Journaled.failure?, resolveAt, missing]
      rfl
  | some type =>
      rw [Journaled.failure?, resolveAt, ImportScope.resolve, found]
      rfl

/-- What is noted about a method has no part in its record. -/
theorem outcome_resolveMethod (service : String) (method : Method) (scope : ImportScope) :
    (resolveMethod table file service method scope).outcome =
      (do
        let (input, scope) ←
          resolveAt table ⟨file, service, method.name, .input⟩ method.input scope
        let (output, scope) ←
          resolveAt table ⟨file, service, method.name, .output⟩ method.output scope
        return ((⟨method.name, input, output⟩ : ResolvedMethod), scope)).outcome := by
  apply Journaled.outcome_bind_congr
  rintro ⟨input, scope⟩
  apply Journaled.outcome_bind_congr
  rintro ⟨output, scope⟩
  dsimp only
  split <;> rfl

theorem failure?_resolveMethod (service : String) (method : Method) (scope : ImportScope) :
    (resolveMethod table file service method scope).failure? =
      table.firstMissing? (method.mentions file service) := by
  have split : method.mentions file service =
      [⟨⟨file, service, method.name, .input⟩, method.input⟩]
        ++ [⟨⟨file, service, method.name, .output⟩, method.output⟩] := rfl
  rw [Journaled.failure?_congr (outcome_resolveMethod table file service method scope), split,
    table.firstMissing?_append, ← failure?_resolveAt table _ scope]
  apply Journaled.failure?_bind
  rintro ⟨input, scope⟩ _
  rw [← failure?_resolveAt table _ scope]
  exact Journaled.failure?_bind_of_fine fun _ => rfl

theorem resolveMethods_eq_thread (service : String) (methods : List Method)
    (scope : ImportScope) :
    resolveMethods table file service methods scope =
      Journaled.thread (resolveMethod table file service) methods scope := by
  induction methods generalizing scope with
  | nil => rfl
  | cons method rest ih => simp only [resolveMethods, Journaled.thread, ih]

theorem failure?_resolveMethods (service : String) (methods : List Method) (scope : ImportScope) :
    (resolveMethods table file service methods scope).failure? =
      table.firstMissing? (methods.flatMap (Method.mentions file service)) := by
  rw [resolveMethods_eq_thread, table.firstMissing?_flatMap]
  exact Journaled.failure?_thread (failure?_resolveMethod table file service) methods scope

/-- What is noted about a service has no part in its record. -/
theorem outcome_resolveService (service : Service) (scope : ImportScope) :
    (resolveService table file service scope).outcome =
      (do
        let (methods, scope) ← resolveMethods table file service.name service.methods scope
        return ((⟨service.name, methods⟩ : ResolvedService), scope)).outcome := by
  unfold resolveService
  dsimp only
  split
  · rfl
  · rw [Journaled.outcome_bind]
    rfl

theorem failure?_resolveService (service : Service) (scope : ImportScope) :
    (resolveService table file service scope).failure? =
      table.firstMissing? (service.mentions file) := by
  rw [Journaled.failure?_congr (outcome_resolveService table file service scope),
    Service.mentions, ← failure?_resolveMethods table file service.name service.methods scope]
  exact Journaled.failure?_bind_of_fine fun _ => rfl

theorem resolveServices_eq_thread (services : List Service) (scope : ImportScope) :
    resolveServices table file services scope =
      Journaled.thread (resolveService table file) services scope := by
  induction services generalizing scope with
  | nil => rfl
  | cons service rest ih => simp only [resolveServices, Journaled.thread, ih]

theorem failure?_resolveServices (services : List Service) (scope : ImportScope) :
    (resolveServices table file services scope).failure? =
      table.firstMissing? (services.flatMap (Service.mentions file)) := by
  rw [resolveServices_eq_thread, table.firstMissing?_flatMap]
  exact Journaled.failure?_thread (failure?_resolveService table file) services scope

end Resolve

/-! ## Stubs of a file -/

section Plugin

variable (options : Options) (file : SchemaFile) (table : SymbolTable)

theorem failure?_fileStubs :
    (fileStubs options file table).failure? = table.firstMissing? file.mentions := by
  rw [SchemaFile.mentions,
    ← failure?_resolveServices table file.name file.services (openingScope options file)]
  exact Journaled.failure?_bind_of_fine fun _ => rfl

/-- The plugin fails with the first missing mention of its file; one without services has none. -/
theorem failure?_generate :
    ((plugin options).generate file table).failure? = table.firstMissing? file.mentions := by
  simp only [plugin, Journaled.failure?_within]
  split
  next =>
    rw [← failure?_fileStubs options]
    exact Journaled.failure?_bind_of_fine fun _ => rfl
  next noServices =>
    have empty : file.services = [] := by simpa [SchemaFile.hasServices] using noServices
    rw [SchemaFile.mentions, empty]
    rfl

end Plugin

variable {options : Options} {file : SchemaFile} {table : SymbolTable}

/-- Where the plugin succeeds, it makes stubs for files with services and for no others. -/
theorem isSome_of_generate_eq_ok {made : Option FileStubs}
    (ok : ((plugin options).generate file table).outcome = .ok made) :
    made.isSome = file.hasServices := by
  simp only [plugin, Journaled.outcome_within] at ok
  split at ok
  next services =>
    rcases Journaled.outcome_bind_eq_ok_iff.mp ok with ⟨stubs, _, answered⟩
    obtain rfl := Except.ok.inj answered
    exact services.symm
  next noServices =>
    rcases Journaled.outcome_bind_eq_ok_iff.mp ok with ⟨_, _, answered⟩
    obtain rfl := Except.ok.inj answered
    simpa using noServices

/-- Stubs are made of a file with services exactly where these can be resolved in the scope that the
file starts with, and they are made of the resolved services and the imports in the end. -/
theorem generate_eq_ok_some_iff {stubs : FileStubs} :
    ((plugin options).generate file table).outcome = .ok (some stubs) ↔
      file.hasServices = true ∧ ∃ services scope,
        (resolveServices table file.name file.services (openingScope options file)).outcome =
            .ok (services, scope)
          ∧ stubs = {
            fragments := fileFragments options file.name services
            packages := Required.importPaths options.root
            imports := scope.imports } := by
  simp only [plugin, Journaled.outcome_within]
  split
  next services =>
    simp only [services, true_and, Journaled.outcome_bind_eq_ok_iff]
    constructor
    · rintro ⟨inner, innerOk, answered⟩
      obtain rfl := Option.some.inj (Except.ok.inj answered)
      rcases Journaled.outcome_bind_eq_ok_iff.mp innerOk with ⟨⟨resolved, scope⟩, ok, rest⟩
      rcases Journaled.outcome_bind_eq_ok_iff.mp rest with ⟨_, _, filled⟩
      exact ⟨resolved, scope, ok, (Except.ok.inj filled).symm⟩
    · rintro ⟨resolved, scope, ok, rfl⟩
      refine ⟨_, Journaled.outcome_bind_eq_ok_iff.mpr ⟨⟨resolved, scope⟩, ok, ?_⟩, rfl⟩
      exact Journaled.outcome_bind_eq_ok_iff.mpr ⟨(), rfl, rfl⟩
  next noServices =>
    constructor
    · intro made
      rcases Journaled.outcome_bind_eq_ok_iff.mp made with ⟨_, _, answered⟩
      cases Except.ok.inj answered
    · rintro ⟨services, _⟩
      exact absurd services noServices

/-- The plugin makes stubs for exactly the files with services whose mentions the table holds. -/
theorem exists_generate_eq_ok_iff :
    (∃ stubs, ((plugin options).generate file table).outcome = .ok (some stubs)) ↔
      file.hasServices = true
        ∧ ∀ mention ∈ file.mentions, SortedMap.contains table mention.ref = true := by
  rw [← SymbolTable.firstMissing?_eq_none_iff, ← failure?_generate options,
    Journaled.failure?_eq_none_iff]
  constructor
  · rintro ⟨stubs, made⟩
    exact ⟨(isSome_of_generate_eq_ok made).symm, some stubs, made⟩
  · rintro ⟨services, made, ok⟩
    rw [← isSome_of_generate_eq_ok ok] at services
    rcases Option.isSome_iff_exists.mp services with ⟨stubs, rfl⟩
    exact ⟨stubs, ok⟩

end Stub

end RpcStubs
