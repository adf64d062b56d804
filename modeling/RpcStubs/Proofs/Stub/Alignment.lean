import RpcStubs.Proofs.Stub.Family
import RpcStubs.Proofs.Stub.Imports

/-!
# Stubs in step with their declarations

The families of a service are written in loops of their own, over records that a loop of its own has
resolved. Still they stay in step: each family has one stub for each declared method in its place,
and the stubs of one method agree on its name and on its types, which are printed as the references
of the declaration were resolved in the file (`families_aligned`).
-/

namespace RpcStubs.Stub

open ImportScope (Call phases)

/-! ## Roles -/

/-- The roles of a family: that of its wrapper, then as often as there are methods that of one. -/
theorem map_role_fragments (options : Options) (service : ResolvedService) (family : Family) :
    (family.fragments options service).map Fragment.role =
      family.wrapperRole :: List.replicate service.methods.length family.methodRole := by
  rw [Family.fragments, List.map_cons, Family.role_wrapper, List.map_map,
    List.eq_replicate_iff.mpr ⟨List.length_map _, ?same⟩]
  intro role member
  rcases List.mem_map.mp member with ⟨method, _, rfl⟩
  exact Family.role_methodStub service method family

/-- The roles of the fragments of some services follow from the declarations of these alone. -/
theorem map_role_serviceFragments {form : String → ResolvedType → Prop} (options : Options)
    {services : List Service} {resolved : List ResolvedService}
    (records : List.Forall₂ (ServiceResolved form) services resolved) :
    (resolved.flatMap (serviceFragments options)).map Fragment.role =
      services.flatMap fun service => Family.all.flatMap fun family =>
        family.wrapperRole :: List.replicate service.methods.length family.methodRole := by
  induction records with
  | nil => rfl
  | cons record _ ih =>
      rw [List.flatMap_cons, List.flatMap_cons, List.map_append, ih, serviceFragments_eq,
        List.map_flatMap, record.methods.length_eq]
      simp only [map_role_fragments]

/-! ## Printed types -/

section Generated

variable {options : Options} {file : SchemaFile} {table : SymbolTable} {stubs : FileStubs}

/-- Each reference of a method was resolved on the way to the closing scope as what its record
holds, and is resolved there as the same again. -/
theorem forall₂_resolved_of_backsRef {services : List ResolvedService}
    (records : List.Forall₂ (ServiceResolved ((closingScope options file table).BacksRef table))
      file.services services) :
    List.Forall₂
      (ServiceResolved fun ref printed =>
        ⟨.resolve table ref, .resolved printed⟩ ∈ (ImportScope.new file.importPath).trace
            (phases table (Required.importPaths options.root) (file.mentions.map Mention.ref))
          ∧ (closingScope options file table).resolve table ref =
            .ok (printed, closingScope options file table))
      file.services services := by
  refine forall₂_resolved_imp file.name records ?_
  rintro mention member printed ⟨type, found, backs⟩
  have called : Call.resolve table mention.ref ∈
      phases table (Required.importPaths options.root) (file.mentions.map Mention.ref) :=
    List.mem_append_right _ (List.mem_map_of_mem (List.mem_map_of_mem member))
  exact (oneName_closingScope options file table).mem_trace_and_resolve_eq called found backs

/-- The fragments of a file are one provenance comment and then, service by service and in each
family by family, a wrapper and the methods in the order of their declaration. The records that they
print hold for each reference of a declaration what resolving it in the file gave, and would give
again in the end. Whatever its family, the stub of a method has the exported name of the method and
the two printed types in its header. -/
theorem families_aligned
    (made : ((plugin options).generate file table).outcome = .ok (some stubs)) :
    stubs.fragments.map Fragment.role =
        .provenance :: file.services.flatMap (fun service => Family.all.flatMap fun family =>
          family.wrapperRole :: List.replicate service.methods.length family.methodRole) ∧
    ∃ services,
      stubs.fragments = provenance file.name :: services.flatMap (fun service =>
        Family.all.flatMap fun family =>
          family.wrapper options service ::
            service.methods.map fun method => family.methodStub service method) ∧
      List.Forall₂
        (ServiceResolved fun ref printed =>
          ⟨.resolve table ref, .resolved printed⟩ ∈ (ImportScope.new file.importPath).trace
              (phases table (Required.importPaths options.root) (file.mentions.map Mention.ref))
            ∧ (closingScope options file table).resolve table ref =
              .ok (printed, closingScope options file table))
        file.services services ∧
      ∀ service ∈ services, ∀ method ∈ service.methods, ∀ family : Family,
        let signature := family.signature service method
        ("args", "*" ++ method.input.name) ∈ signature.params
          ∧ ("reply", "*" ++ method.output.name) ∈ signature.params ++ signature.results
          ∧ ∃ before after, (family.methodStub service method).text =
            before ++ (signature.header method.exported ++ " \x7b\n") ++ after := by
  rcases exists_resolved_of_generate made with ⟨services, rfl, records⟩
  refine ⟨?roles, services, fileFragments_eq options file.name services,
    forall₂_resolved_of_backsRef records, ?printed⟩
  case roles =>
    rw [fileFragments, List.map_cons, map_role_serviceFragments options records]
    rfl
  case printed =>
    intro service _ method _ family signature
    exact ⟨Family.mem_params_signature service method family,
      Family.mem_results_signature service method family,
      Family.exists_text_methodStub_eq service method family⟩

/-- Methods and services of one name each have stubs of their own, and a service without methods has
its three wrappers. -/
theorem families_aligned_of_repeated_names :
    let file : SchemaFile := {
      name := "shop.proto"
      services := [⟨"Shop", [⟨"Buy", "item", "slip"⟩, ⟨"Buy", "slip", "item"⟩]⟩, ⟨"Shop", []⟩] }
    let table := SymbolTable.ofEntries
      [⟨"item", "Item", "api", "shop/api"⟩, ⟨"slip", "Slip", "", ""⟩]
    ∃ stubs, ((plugin {}).generate file table).outcome = .ok (some stubs)
      ∧ stubs.fragments.map Fragment.role =
        [.provenance, .serverSkeleton, .serverMethod, .serverMethod, .clientWrapper, .clientMethod,
          .clientMethod, .oneClientWrapper, .oneClientMethod, .oneClientMethod, .serverSkeleton,
          .clientWrapper, .oneClientWrapper] := by
  intro file table
  have complete : file.hasServices = true
      ∧ ∀ mention ∈ file.mentions, SortedMap.contains table mention.ref = true := by
    decide
  rcases exists_generate_eq_ok_iff.mpr complete with ⟨stubs, made⟩
  exact ⟨stubs, made, (families_aligned made).1⟩

end Generated

end RpcStubs.Stub
