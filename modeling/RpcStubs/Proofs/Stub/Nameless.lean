import RpcStubs.Proofs.Go.Name
import RpcStubs.Proofs.Log.Warning
import RpcStubs.Proofs.Stub.Mention

/-!
# Warnings about names

Resolving the services of a file warns of each service and method whose exported name is not an
exported one. Whatever character a name begins with, its exported form is exported, so only empty
names are warned of (`warnings_eq_nameless`), and none that begins with something else than a letter
(`silence_on_names_without_letter`).
-/

namespace RpcStubs

open Log (Event Journaled warnings)

/-- Warnings about a service and its methods in the order of declaration, one for each name that is
not fine. -/
def Service.warnedUnless (fine : String → Bool) (service : Service) : List Event :=
  (if fine service.name then [] else [.hiddenService service.name])
    ++ service.methods.flatMap fun method =>
      if fine method.name then [] else [.hiddenMethod service.name method.name]

namespace Stub

/-- Whether the exported form of a name is exported. -/
def hasExportedForm (name : String) : Bool :=
  Go.isExported (Go.exported name)

theorem hasExportedForm_eq : hasExportedForm = fun name => decide (name ≠ "") := by
  funext name
  rw [hasExportedForm, Bool.eq_iff_iff, decide_eq_true_eq, Go.isExported_exported_iff]

/-! ## Steps of the resolution -/

section Resolve

variable {table : SymbolTable} {file : String}

/-- The resolution of a reference is noted below the level of warnings. -/
theorem warnings_resolveAt (place : Place) (ref : String) (scope : ImportScope) :
    warnings (resolveAt table place ref scope).journal = [] := by
  rw [resolveAt, Log.warnings_map_event, List.filter_eq_nil_iff]
  intro event member
  unfold resolutionEvents at member
  split at member
  · cases member
  · rcases List.mem_append.mp member with renamed | resolved
    · rcases List.mem_map.mp renamed with ⟨item, _, rfl⟩
      exact Bool.false_ne_true
    · obtain rfl := List.mem_singleton.mp resolved
      exact Bool.false_ne_true

theorem warnings_resolveMethod {service : String} {method : Method} {scope : ImportScope}
    {result : ResolvedMethod × ImportScope}
    (ok : (resolveMethod table file service method scope).outcome = .ok result) :
    warnings (resolveMethod table file service method scope).journal =
      if hasExportedForm method.name then [] else [.hiddenMethod service method.name] := by
  rw [outcome_resolveMethod] at ok
  rcases Journaled.outcome_bind_eq_ok_iff.mp ok with ⟨⟨input, middle⟩, inputOk, rest⟩
  rcases Journaled.outcome_bind_eq_ok_iff.mp rest with ⟨⟨output, final⟩, outputOk, _⟩
  rw [resolveMethod, Journaled.journal_bind_of_ok inputOk, Journaled.journal_bind_of_ok outputOk,
    Log.warnings_append, Log.warnings_append, warnings_resolveAt, warnings_resolveAt]
  have spelled : Go.isExported (⟨method.name, input, output⟩ : ResolvedMethod).exported =
      hasExportedForm method.name := rfl
  dsimp only
  rw [spelled]
  cases hasExportedForm method.name <;> rfl

theorem warnings_resolveMethods {service : String} {methods : List Method} {scope : ImportScope}
    {result : List ResolvedMethod × ImportScope}
    (ok : (resolveMethods table file service methods scope).outcome = .ok result) :
    warnings (resolveMethods table file service methods scope).journal =
      methods.flatMap fun method =>
        if hasExportedForm method.name then [] else [.hiddenMethod service method.name] := by
  rw [resolveMethods_eq_thread] at ok ⊢
  refine Journaled.warnings_thread ?_ ok
  intro method scope result stepOk
  exact warnings_resolveMethod stepOk

/-- What is noted about a service comes in front of what is noted about its methods. -/
theorem warnings_resolveService {service : Service} {scope : ImportScope}
    {result : ResolvedService × ImportScope}
    (ok : (resolveService table file service scope).outcome = .ok result) :
    warnings (resolveService table file service scope).journal =
      service.warnedUnless hasExportedForm := by
  rw [outcome_resolveService] at ok
  rcases Journaled.outcome_bind_eq_ok_iff.mp ok with ⟨⟨methods, final⟩, methodsOk, _⟩
  have inner : warnings (resolveMethods table file service.name service.methods scope >>=
        fun resolved => (pure (⟨service.name, resolved.1⟩, resolved.2) :
          Journaled GenerationError (ResolvedService × ImportScope))).journal =
      service.methods.flatMap fun method =>
        if hasExportedForm method.name then []
        else [.hiddenMethod service.name method.name] := by
    rw [Journaled.journal_bind_of_ok methodsOk, Log.warnings_append,
      warnings_resolveMethods methodsOk]
    exact List.append_nil _
  have spelled : Go.isExported (Go.exported service.name) = hasExportedForm service.name := rfl
  rw [resolveService, Service.warnedUnless, ← inner, spelled]
  dsimp only
  cases hasExportedForm service.name with
  | true => rfl
  | false => rfl

theorem warnings_resolveServices {services : List Service} {scope : ImportScope}
    {result : List ResolvedService × ImportScope}
    (ok : (resolveServices table file services scope).outcome = .ok result) :
    warnings (resolveServices table file services scope).journal =
      services.flatMap (Service.warnedUnless hasExportedForm) := by
  rw [resolveServices_eq_thread] at ok ⊢
  refine Journaled.warnings_thread ?_ ok
  intro service scope result stepOk
  exact warnings_resolveService stepOk

end Resolve

/-! ## Files -/

section File

variable {file : SchemaFile} {table : SymbolTable}

/-- Whatever the scope, the services of a file can be resolved if all mentions can. -/
theorem exists_resolveServices_eq_ok
    (complete : ∀ mention ∈ file.mentions, SortedMap.contains table mention.ref = true)
    (scope : ImportScope) :
    ∃ result, (resolveServices table file.name file.services scope).outcome = .ok result := by
  rw [← Journaled.failure?_eq_none_iff, failure?_resolveServices]
  exact SymbolTable.firstMissing?_eq_none_iff.mpr complete

/-- Where all services are resolved, nothing is warned of behind their resolution. -/
theorem warnings_fileStubs {options : Options} {services : List ResolvedService}
    {scope : ImportScope}
    (ok : (resolveServices table file.name file.services (openingScope options file)).outcome =
      .ok (services, scope)) :
    warnings (fileStubs options file table).journal =
      file.services.flatMap (Service.warnedUnless hasExportedForm) := by
  let emitted : List Event :=
    services.map fun service => .emitting service.raw service.methods.length
  have noted : (Journaled.note emitted : Journaled GenerationError Unit).outcome = .ok () := rfl
  have silent : warnings (Journaled.note emitted : Journaled GenerationError Unit).journal = [] := by
    rw [Journaled.note, Log.warnings_map_event, List.filter_eq_nil_iff]
    intro event member
    rcases List.mem_map.mp member with ⟨service, _, rfl⟩
    exact Bool.false_ne_true
  rw [fileStubs, Journaled.journal_bind_of_ok ok, Log.warnings_append, warnings_resolveServices ok,
    Journaled.journal_bind_of_ok noted, Log.warnings_append, silent]
  exact List.append_nil _

theorem warnings_generate {options : Options}
    (complete : ∀ mention ∈ file.mentions, SortedMap.contains table mention.ref = true) :
    warnings ((plugin options).generate file table).journal =
      file.services.flatMap (Service.warnedUnless hasExportedForm) := by
  simp only [plugin, Journaled.warnings_within]
  split
  next =>
    rcases exists_resolveServices_eq_ok complete (openingScope options file) with
      ⟨⟨services, scope⟩, ok⟩
    have made : (fileStubs options file table).failure? = none := by
      rw [failure?_fileStubs]
      exact SymbolTable.firstMissing?_eq_none_iff.mpr complete
    rcases Journaled.failure?_eq_none_iff.mp made with ⟨stubs, stubsOk⟩
    rw [Journaled.journal_bind_of_ok stubsOk, Log.warnings_append, warnings_fileStubs ok]
    exact List.append_nil _
  next noServices =>
    have empty : file.services = [] := by simpa [SchemaFile.hasServices] using noServices
    rw [empty]
    rfl

/-- Where all types of a file resolve, resolving its services in any scope warns of exactly the
services and methods without a name, in the order of their declaration, and so does the plugin. -/
theorem warnings_eq_nameless
    (complete : ∀ mention ∈ file.mentions, SortedMap.contains table mention.ref = true)
    (options : Options) :
    let nameless := file.services.flatMap (Service.warnedUnless fun name => name ≠ "")
    (∀ scope, warnings (resolveServices table file.name file.services scope).journal = nameless)
      ∧ warnings ((plugin options).generate file table).journal = nameless := by
  intro nameless
  have same : file.services.flatMap (Service.warnedUnless hasExportedForm) = nameless := by
    rw [hasExportedForm_eq]
  constructor
  · intro scope
    rcases exists_resolveServices_eq_ok complete scope with ⟨result, ok⟩
    rw [warnings_resolveServices ok, same]
  · rw [warnings_generate complete, same]

/-- The names of ligatures, digits and marks are not warned of, empty names are. -/
theorem warnings_eq_nameless_of_unusual_names :
    let file : SchemaFile := {
      name := "shop.proto"
      services := [⟨"ßtream", [⟨"", "item", "item"⟩, ⟨"2fa", "item", "item"⟩]⟩, ⟨"", []⟩] }
    let table := SymbolTable.ofEntries [⟨"item", "Item", "", ""⟩]
    (∀ mention ∈ file.mentions, SortedMap.contains table mention.ref = true)
      ∧ warnings ((plugin {}).generate file table).journal =
        [.hiddenMethod "ßtream" "", .hiddenService ""] := by
  intro file table
  have complete : ∀ mention ∈ file.mentions, SortedMap.contains table mention.ref = true := by
    decide
  refine ⟨complete, ?_⟩
  rw [(warnings_eq_nameless complete {}).2]
  decide

/-- Names that begin with a digit or an underscore are no names with a letter in front, but are not
warned of. -/
theorem silence_on_names_without_letter :
    let opensWithLetter := fun name => (Go.exported name).toList.head?.any Text.isAlphabetic
    let file : SchemaFile :=
      { name := "shop.proto", services := [⟨"2fa", [⟨"_ping", "item", "item"⟩]⟩] }
    let table := SymbolTable.ofEntries [⟨"item", "Item", "", ""⟩]
    (∀ mention ∈ file.mentions, SortedMap.contains table mention.ref = true)
      ∧ file.services.flatMap (Service.warnedUnless opensWithLetter) =
        [.hiddenService "2fa", .hiddenMethod "2fa" "_ping"]
      ∧ warnings (resolveServices table file.name file.services (openingScope {} file)).journal =
        [] := by
  intro opensWithLetter file table
  have complete : ∀ mention ∈ file.mentions, SortedMap.contains table mention.ref = true := by
    decide
  rcases exists_resolveServices_eq_ok complete (openingScope {} file) with ⟨result, ok⟩
  refine ⟨complete, by decide +kernel, ?_⟩
  rw [warnings_resolveServices ok, hasExportedForm_eq]
  decide

end File

end Stub

end RpcStubs
