import Mathlib.Data.List.Forall2
import RpcStubs.Proofs.Stub.Mention
import RpcStubs.Proofs.Symbol.Qualifier

/-!
# Resolved services

Resolving the services of a file is a run of its scope: one resolution for each mention, in order.
Where it succeeds, its records stand side by side with the declarations, and the scope at the end
backs every printed type in them.
-/

namespace RpcStubs

namespace ImportScope

/-- A scope backs what is printed for a reference, as the form of the type that a table holds. -/
def BacksRef (scope : ImportScope) (table : SymbolTable) (ref : String) (printed : ResolvedType) :
    Prop :=
  ∃ type, table.find? ref = some type ∧ scope.Backs type printed

theorem BacksRef.mono {scope later : ImportScope} {table : SymbolTable} {ref : String}
    {printed : ResolvedType} (backs : scope.BacksRef table ref printed)
    (grows : scope.GrowsTo later) : later.BacksRef table ref printed := by
  rcases backs with ⟨type, found, backs⟩
  exact ⟨type, found, backs.mono grows⟩

end ImportScope

namespace Stub

open Log (Journaled)

/-- One resolution for each mention. -/
def resolutions (table : SymbolTable) (mentions : List Mention) : List ImportScope.Call :=
  (mentions.map Mention.ref).map (.resolve table)

theorem resolutions_append (table : SymbolTable) (earlier later : List Mention) :
    resolutions table (earlier ++ later) = resolutions table earlier ++ resolutions table later := by
  simp [resolutions]

/-- A method's record: its name, and for both types a form in some relation to the reference. -/
structure MethodResolved (form : String → ResolvedType → Prop) (method : Method)
    (resolved : ResolvedMethod) : Prop where
  raw : resolved.raw = method.name
  input : form method.input resolved.input
  output : form method.output resolved.output

/-- A service's record: its name, and a record for each of its methods in their order. -/
structure ServiceResolved (form : String → ResolvedType → Prop) (service : Service)
    (resolved : ResolvedService) : Prop where
  raw : resolved.raw = service.name
  methods : List.Forall₂ (MethodResolved form) service.methods resolved.methods

section Forms

variable {form weaker : String → ResolvedType → Prop}

theorem MethodResolved.imp {method : Method} {resolved : ResolvedMethod}
    (record : MethodResolved form method resolved)
    (implies : ∀ ref printed, form ref printed → weaker ref printed) :
    MethodResolved weaker method resolved where
  raw := record.raw
  input := implies _ _ record.input
  output := implies _ _ record.output

theorem ServiceResolved.imp {service : Service} {resolved : ResolvedService}
    (record : ServiceResolved form service resolved)
    (implies : ∀ ref printed, form ref printed → weaker ref printed) :
    ServiceResolved weaker service resolved where
  raw := record.raw
  methods := record.methods.imp fun _ _ method => method.imp implies

/-- What the mentions of some services imply about their forms goes for all records of these
services. -/
theorem forall₂_resolved_imp (file : String) {services : List Service}
    {resolved : List ResolvedService}
    (records : List.Forall₂ (ServiceResolved form) services resolved)
    (implies : ∀ mention ∈ services.flatMap (Service.mentions file), ∀ printed,
      form mention.ref printed → weaker mention.ref printed) :
    List.Forall₂ (ServiceResolved weaker) services resolved := by
  have listed := (List.forall₂_and_left _ _).mpr ⟨fun _ member => member, records⟩
  refine listed.imp fun service record ⟨inServices, named⟩ => ⟨named.raw, ?_⟩
  have methods := (List.forall₂_and_left _ _).mpr ⟨fun _ member => member, named.methods⟩
  refine methods.imp fun method resolved ⟨inService, printed⟩ => ?_
  have mentioned : ∀ mention ∈ method.mentions file service.name,
      mention ∈ services.flatMap (Service.mentions file) := fun mention member =>
    List.mem_flatMap.mpr ⟨service, inServices, List.mem_flatMap.mpr ⟨method, inService, member⟩⟩
  exact {
    raw := printed.raw
    input := implies _ (mentioned _ List.mem_cons_self) _ printed.input
    output := implies _ (mentioned _ (.tail _ List.mem_cons_self)) _ printed.output }

/-- Beside each record stands what it is a record of. -/
theorem exists_beside_of_mem {α β : Type} {Record : α → β → Prop} {items : List α}
    {records : List β} (beside : List.Forall₂ Record items records) {record : β}
    (member : record ∈ records) : ∃ item, Record item record := by
  induction beside with
  | nil => contradiction
  | cons recorded _ ih =>
      rcases List.mem_cons.mp member with rfl | behind
      · exact ⟨_, recorded⟩
      · exact ih behind

/-- Beside each item stands a record of it. -/
theorem exists_record_of_mem {α β : Type} {Record : α → β → Prop} {items : List α}
    {records : List β} (beside : List.Forall₂ Record items records) {item : α}
    (member : item ∈ items) : ∃ record ∈ records, Record item record := by
  induction beside with
  | nil => contradiction
  | cons recorded _ ih =>
      rcases List.mem_cons.mp member with rfl | behind
      · exact ⟨_, List.mem_cons_self, recorded⟩
      · rcases ih behind with ⟨record, listed, recordedBehind⟩
        exact ⟨record, List.mem_cons_of_mem _ listed, recordedBehind⟩

/-- Each method among the records of some services is recorded for a declared method. -/
theorem exists_methodResolved_of_mem {services : List Service} {resolved : List ResolvedService}
    (records : List.Forall₂ (ServiceResolved form) services resolved) {service : ResolvedService}
    (inServices : service ∈ resolved) {method : ResolvedMethod}
    (inService : method ∈ service.methods) : ∃ declared, MethodResolved form declared method := by
  rcases exists_beside_of_mem records inServices with ⟨_, record⟩
  exact exists_beside_of_mem record.methods inService

end Forms

variable {scope later : ImportScope} {table : SymbolTable} {file : String}

theorem resolveAt_ok (mention : Mention) {printed : ResolvedType}
    (ok : (resolveAt table mention.place mention.ref scope).outcome = .ok (printed, later)) :
    later = scope.after (resolutions table [mention])
      ∧ later.BacksRef table mention.ref printed := by
  have resolved : scope.resolve table mention.ref = .ok (printed, later) := by
    simp only [resolveAt] at ok
    cases answer : scope.resolve table mention.ref with
    | error symbol =>
        rw [answer] at ok
        contradiction
    | ok result =>
        rw [answer] at ok
        exact congrArg Except.ok (Except.ok.inj ok)
  rcases ImportScope.resolve_eq_ok_iff.mp resolved with ⟨type, found, way⟩
  constructor
  · simp [resolutions, ImportScope.next, resolved]
  · exact ⟨type, found, way.backs⟩

theorem resolveMethod_ok {service : String} {method : Method} {resolved : ResolvedMethod}
    (ok : (resolveMethod table file service method scope).outcome = .ok (resolved, later)) :
    later = scope.after (resolutions table (method.mentions file service))
      ∧ MethodResolved (later.BacksRef table) method resolved := by
  rw [outcome_resolveMethod] at ok
  rcases Journaled.outcome_bind_eq_ok_iff.mp ok with ⟨⟨input, middle⟩, inputOk, rest⟩
  rcases Journaled.outcome_bind_eq_ok_iff.mp rest with ⟨⟨output, final⟩, outputOk, answered⟩
  rcases Prod.mk.inj (Except.ok.inj answered) with ⟨rfl, rfl⟩
  rcases resolveAt_ok ⟨⟨file, service, method.name, .input⟩, method.input⟩ inputOk with
      ⟨middleEq, inputBacked⟩
  rcases resolveAt_ok ⟨⟨file, service, method.name, .output⟩, method.output⟩ outputOk with
      ⟨finalEq, outputBacked⟩
  subst middleEq
  subst finalEq
  refine ⟨rfl, rfl, ?_, outputBacked⟩
  exact inputBacked.mono (ImportScope.growsTo_after _ _)

/-- Where a loop over the scope succeeds, each of whose steps makes one resolution for each mention
and leaves a scope that backs its record, the scope in the end backs all records. -/
theorem thread_ok {α β : Type} (Record : (String → ResolvedType → Prop) → α → β → Prop)
    {step : α → ImportScope → Journaled GenerationError (β × ImportScope)}
    {mentions : α → List Mention}
    (imp : ∀ {form weaker item record}, Record form item record →
      (∀ ref printed, form ref printed → weaker ref printed) → Record weaker item record)
    (step_ok : ∀ {item scope record later}, (step item scope).outcome = .ok (record, later) →
      later = scope.after (resolutions table (mentions item))
        ∧ Record (later.BacksRef table) item record)
    {items : List α} {records : List β}
    (ok : (Journaled.thread step items scope).outcome = .ok (records, later)) :
    later = scope.after (resolutions table (items.flatMap mentions))
      ∧ List.Forall₂ (Record (later.BacksRef table)) items records := by
  induction items generalizing scope records with
  | nil =>
      rcases Prod.mk.inj (Except.ok.inj ok) with ⟨rfl, rfl⟩
      exact ⟨rfl, .nil⟩
  | cons item rest ih =>
      rcases Journaled.outcome_thread_cons_eq_ok_iff.mp ok with
        ⟨first, middle, others, firstOk, othersOk, rfl⟩
      rcases step_ok firstOk with ⟨middleEq, firstRecord⟩
      rcases ih othersOk with ⟨laterEq, otherRecords⟩
      constructor
      · rw [List.flatMap_cons, resolutions_append, ImportScope.after_append, ← middleEq, laterEq]
      · apply List.Forall₂.cons _ otherRecords
        apply imp firstRecord
        intro ref printed backed
        exact laterEq ▸ backed.mono (ImportScope.growsTo_after _ _)

theorem resolveMethods_ok {service : String} {methods : List Method}
    {resolved : List ResolvedMethod}
    (ok : (resolveMethods table file service methods scope).outcome = .ok (resolved, later)) :
    later = scope.after (resolutions table (methods.flatMap (Method.mentions file service)))
      ∧ List.Forall₂ (MethodResolved (later.BacksRef table)) methods resolved := by
  rw [resolveMethods_eq_thread] at ok
  exact thread_ok MethodResolved MethodResolved.imp resolveMethod_ok ok

theorem resolveService_ok {service : Service} {resolved : ResolvedService}
    (ok : (resolveService table file service scope).outcome = .ok (resolved, later)) :
    later = scope.after (resolutions table (service.mentions file))
      ∧ ServiceResolved (later.BacksRef table) service resolved := by
  rw [outcome_resolveService] at ok
  rcases Journaled.outcome_bind_eq_ok_iff.mp ok with ⟨⟨methods, final⟩, methodsOk, answered⟩
  rcases Prod.mk.inj (Except.ok.inj answered) with ⟨rfl, rfl⟩
  rcases resolveMethods_ok methodsOk with ⟨finalEq, methodsResolved⟩
  exact ⟨finalEq, rfl, methodsResolved⟩

/-- Where resolving the services of a file succeeds, it has made one resolution for each mention,
and the scope it leaves backs everything in its records. -/
theorem resolveServices_ok {services : List Service} {resolved : List ResolvedService}
    (ok : (resolveServices table file services scope).outcome = .ok (resolved, later)) :
    later = scope.after (resolutions table (services.flatMap (Service.mentions file)))
      ∧ List.Forall₂ (ServiceResolved (later.BacksRef table)) services resolved := by
  rw [resolveServices_eq_thread] at ok
  exact thread_ok ServiceResolved ServiceResolved.imp resolveService_ok ok

end Stub

end RpcStubs
