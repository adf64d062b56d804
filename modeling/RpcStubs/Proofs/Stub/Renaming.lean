import RpcStubs.Proofs.Log.Agreement
import RpcStubs.Proofs.Stub.Mention
import RpcStubs.Proofs.Symbol.Likeness

/-!
# References under other names

Renaming the references of a file leaves everything else of it as it is. A table that holds for every
renamed reference what another table holds for the reference itself leads to the same stubs, or to
the same failure with the missing reference renamed (`agree_generate`): no stub depends on the text
of a reference or on its place among the keys of a table.
-/

namespace RpcStubs

open Log (Journaled)
open Log.Journaled (Agree SameBeside)

/-! ## Renamed references -/

section Rename

variable (naming : String → String)

/-- The method with both references renamed. -/
def Method.rename (method : Method) : Method :=
  { method with input := naming method.input, output := naming method.output }

/-- The service with the references of its methods renamed. -/
def Service.rename (service : Service) : Service :=
  { service with methods := service.methods.map (Method.rename naming) }

/-- The file with the references of its methods renamed. -/
def SchemaFile.rename (file : SchemaFile) : SchemaFile :=
  { file with services := file.services.map (Service.rename naming) }

/-- The entry under a renamed reference. -/
def TypeEntry.rename (entry : TypeEntry) : TypeEntry :=
  { entry with ref := naming entry.ref }

/-- The set with the references of its methods and of its types renamed. -/
def DescriptorSet.rename (set : DescriptorSet) : DescriptorSet where
  files := set.files.map (SchemaFile.rename naming)
  types := set.types.map (TypeEntry.rename naming)

/-- The failure with the reference it misses renamed. -/
def GenerationError.rename : GenerationError → GenerationError
  | unresolved place missing => unresolved place ⟨naming missing.ref⟩
  | unknownPlugin name => unknownPlugin name

theorem SchemaFile.hasServices_rename (file : SchemaFile) :
    (file.rename naming).hasServices = file.hasServices := by
  simp [SchemaFile.rename, SchemaFile.hasServices]

end Rename

section Identity

theorem SchemaFile.rename_id : SchemaFile.rename id = id := by
  have methods : Method.rename id = id := rfl
  have services : Service.rename id = id := by
    funext service
    simp [Service.rename, methods]
  funext file
  simp [SchemaFile.rename, services]

theorem GenerationError.rename_id : GenerationError.rename id = id := by
  funext error
  cases error <;> rfl

end Identity

/-- Another table holds for the renamed references of some mentions what a table holds for the
references themselves. -/
def SymbolTable.AgreesOn (table other : SymbolTable) (naming : String → String)
    (mentions : List Mention) : Prop :=
  ∀ mention ∈ mentions, other.find? (naming mention.ref) = table.find? mention.ref

theorem SymbolTable.AgreesOn.of_mem_flatMap {table other : SymbolTable} {naming : String → String}
    {α : Type} {mentions : α → List Mention} {items : List α}
    (agrees : table.AgreesOn other naming (items.flatMap mentions)) {item : α}
    (member : item ∈ items) : table.AgreesOn other naming (mentions item) := by
  intro mention inItem
  exact agrees mention (List.mem_flatMap.mpr ⟨item, member, inItem⟩)

namespace Stub

/-! ## Resolutions under renaming -/

section Resolve

variable {table other : SymbolTable} {naming : String → String} {file : String}
  {scope held : ImportScope}

/-- Two results of resolving are alike: the same record beside scopes that print alike. -/
abbrev SameRecord {α : Type} (first second : α × ImportScope) : Prop :=
  SameBeside ImportScope.PrintsLike first second

theorem agree_resolveAt (place : Place) {ref : String}
    (agrees : other.find? (naming ref) = table.find? ref) (like : scope.PrintsLike held) :
    Agree (GenerationError.rename naming) SameRecord (resolveAt table place ref scope).outcome
      (resolveAt other place (naming ref) held).outcome := by
  cases found : table.find? ref with
  | none =>
      have failed : scope.resolve table ref = .error ⟨ref⟩ :=
        ImportScope.resolve_eq_error_iff.mpr ⟨found, rfl⟩
      have otherFailed : held.resolve other (naming ref) = .error ⟨naming ref⟩ :=
        ImportScope.resolve_eq_error_iff.mpr ⟨agrees.trans found, rfl⟩
      simp only [resolveAt, failed, otherFailed]
      exact .error (GenerationError.unresolved place ⟨ref⟩)
  | some type =>
      rcases like.resolve found (agrees.trans found) with
        ⟨printed, later, otherLater, resolved, otherResolved, alike⟩
      simp only [resolveAt, resolved, otherResolved]
      exact .ok ⟨rfl, alike⟩

theorem agree_resolveMethod (service : String) {method : Method}
    (agrees : table.AgreesOn other naming (method.mentions file service))
    (like : scope.PrintsLike held) :
    Agree (GenerationError.rename naming) SameRecord
      (resolveMethod table file service method scope).outcome
      (resolveMethod other file service (method.rename naming) held).outcome := by
  have inputAgrees := agrees _ (List.mem_cons_self ..)
  have outputAgrees := agrees _ (List.mem_cons_of_mem _ (List.mem_cons_self ..))
  rw [outcome_resolveMethod, outcome_resolveMethod]
  refine Agree.bind (agree_resolveAt _ inputAgrees like) ?_
  rintro ⟨input, middle⟩ ⟨_, heldMiddle⟩ ⟨rfl, middleLike⟩
  refine Agree.bind (agree_resolveAt _ outputAgrees middleLike) ?_
  rintro ⟨output, final⟩ ⟨_, heldFinal⟩ ⟨rfl, finalLike⟩
  exact .ok ⟨rfl, finalLike⟩

theorem agree_resolveService {service : Service}
    (agrees : table.AgreesOn other naming (service.mentions file))
    (like : scope.PrintsLike held) :
    Agree (GenerationError.rename naming) SameRecord
      (resolveService table file service scope).outcome
      (resolveService other file (service.rename naming) held).outcome := by
  rw [outcome_resolveService, outcome_resolveService]
  simp only [resolveMethods_eq_thread]
  refine Agree.bind (Journaled.agree_thread ?_ like) ?_
  · intro method member state otherState alike
    exact agree_resolveMethod service.name (agrees.of_mem_flatMap member) alike
  · rintro ⟨methods, final⟩ ⟨_, heldFinal⟩ ⟨rfl, finalLike⟩
    exact .ok ⟨rfl, finalLike⟩

theorem agree_resolveServices {services : List Service}
    (agrees : table.AgreesOn other naming (services.flatMap (Service.mentions file)))
    (like : scope.PrintsLike held) :
    Agree (GenerationError.rename naming) SameRecord
      (resolveServices table file services scope).outcome
      (resolveServices other file (services.map (Service.rename naming)) held).outcome := by
  rw [resolveServices_eq_thread, resolveServices_eq_thread]
  refine Journaled.agree_thread ?_ like
  intro service member state otherState alike
  exact agree_resolveService (agrees.of_mem_flatMap member) alike

end Resolve

/-! ## Stubs under renaming -/

section Plugin

variable (options : Options) {file : SchemaFile} {table other : SymbolTable}
  {naming : String → String}

theorem agree_fileStubs (agrees : table.AgreesOn other naming file.mentions) :
    Agree (GenerationError.rename naming) Eq (fileStubs options file table).outcome
      (fileStubs options (file.rename naming) other).outcome := by
  refine Agree.bind
    (agree_resolveServices agrees (ImportScope.PrintsLike.refl (openingScope options file))) ?_
  rintro ⟨services, final⟩ ⟨_, heldFinal⟩ ⟨rfl, finalLike⟩
  refine .ok (FileStubs.mk.injEq .. |>.mpr ⟨rfl, rfl, ?_⟩)
  exact finalLike.imports.symm

/-- For a file with renamed references the plugin makes the same stubs with a table that agrees on
its mentions, or it fails in the same way. -/
theorem agree_generate (agrees : table.AgreesOn other naming file.mentions) :
    Agree (GenerationError.rename naming) Eq ((plugin options).generate file table).outcome
      ((plugin options).generate (file.rename naming) other).outcome := by
  simp only [plugin, Journaled.outcome_within, SchemaFile.hasServices_rename]
  split
  next =>
    refine Agree.bind (agree_fileStubs options agrees) ?_
    rintro stubs _ rfl
    exact .ok rfl
  next => exact .ok rfl

end Plugin

end Stub

end RpcStubs
