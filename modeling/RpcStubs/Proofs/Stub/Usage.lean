import RpcStubs.Proofs.Go.Qualification
import RpcStubs.Proofs.Stub.Declarations
import RpcStubs.Proofs.Stub.Dependencies

/-!
# Imports that stubs use

A generated file imports the required packages and those of its types. The stubs of each service
refer to the required packages, but only a method needs a context; and a path away from home is
imported because some method prints a type that lives there. So the file refers to every package
that it imports, to `context` at least where a service has methods (`imports_used`).
-/

namespace RpcStubs.Stub

open Go (Qualifies)
open Go.Code (Uses stretchesAll)
open Text (Within)

/-! ## What the stubs of a service refer to -/

section Drafts

variable (options : Options) (service : ResolvedService)

theorem uses_server : Uses (serverSkeletonCode service options) "server" := by
  refine ⟨"s := server.NewServer()", ?_, "s := ", "NewServer()", rfl, by decide⟩
  simp [serverSkeletonCode, stretchesAll, Go.Code.stretches]

theorem uses_client : Uses (clientWrapperCode service options) "client" := by
  refine ⟨"client.XClient", ?_, "", "XClient", rfl, by decide⟩
  simp [clientWrapperCode, stretchesAll, Go.Code.stretches]

theorem uses_protocol : Uses (clientWrapperCode service options) "protocol" := by
  refine ⟨"opt.SerializeType = " ++ Choice.expression options.serializeType, ?_,
    "opt.SerializeType = ", Choice.word options.serializeType, ?_, by decide⟩
  · simp [clientWrapperCode, factoryBody, stretchesAll, Go.Code.stretches]
  · simp only [Choice.expression, String.append_assoc]
    rfl

variable {service} (method : ResolvedMethod)

theorem uses_context : Uses (serverMethodCode service method) "context" := by
  have opening : "ctx context.Context, args *" = "ctx " ++ "context" ++ "." ++ "Context, args *" :=
    rfl
  -- The parameters are the second stretch of the code, behind the receiver.
  refine ⟨_, .tail _ (.head _), "ctx ",
    "Context, args *" ++ method.input.name ++ ", reply *" ++ method.output.name, ?_, by decide⟩
  rw [opening]
  simp only [String.append_assoc]

/-- The server stub of a method refers to the packages of both types: its parameters point to them,
and its body makes a message of the output type. -/
theorem uses_of_printed {name type : String}
    (printed : method.input.name = name ++ "." ++ type ∨ method.output.name = name ++ "." ++ type) :
    Uses (serverMethodCode service method) name := by
  rcases printed with input | output
  · refine ⟨_, .tail _ (.head _), "ctx context.Context, args *",
      type ++ ", reply *" ++ method.output.name, ?_, by decide⟩
    rw [input]
    simp only [String.append_assoc]
  · refine ⟨"*reply = " ++ method.output.name ++ "\x7b\x7d", ?_, "*reply = ", type ++ "\x7b\x7d", ?_,
      by decide⟩
    · simp [serverMethodCode, stretchesAll, Go.Code.stretches]
    · rw [output]
      simp only [String.append_assoc]

theorem serverMethod_mem_serviceDrafts {method : ResolvedMethod}
    (inService : method ∈ service.methods) :
    ⟨.serverMethod, serverMethodCode service method⟩ ∈ serviceDrafts options service := by
  refine List.mem_append_left _ (List.mem_append_left _ (.tail _ ?_))
  exact List.mem_map.mpr ⟨method, inService, rfl⟩

theorem clientWrapper_mem_serviceDrafts :
    ⟨.clientWrapper, clientWrapperCode service options⟩ ∈ serviceDrafts options service :=
  List.mem_append_left _ (List.mem_append_right _ (.head _))

/-- The stubs of a service refer to the required packages under their names, to `context` if the
service has methods. -/
theorem exists_uses_required (needed : Required)
    (called : needed = .context → service.methods ≠ []) :
    ∃ draft ∈ serviceDrafts options service, Uses draft.code needed.name := by
  cases needed with
  | server => exact ⟨_, .head _, uses_server options service⟩
  | client => exact ⟨_, clientWrapper_mem_serviceDrafts options, uses_client options service⟩
  | protocol => exact ⟨_, clientWrapper_mem_serviceDrafts options, uses_protocol options service⟩
  | context =>
      rcases List.exists_mem_of_ne_nil _ (called rfl) with ⟨method, inService⟩
      exact ⟨_, serverMethod_mem_serviceDrafts options inService, uses_context method⟩

end Drafts

/-! ## Generated files -/

section Generated

variable {options : Options} {file : SchemaFile} {table : SymbolTable} {stubs : FileStubs}
  {services : List ResolvedService}
  (records : List.Forall₂ (ServiceResolved ((closingScope options file table).BacksRef table))
    file.services services)

include records

/-- A path away from home in which a mentioned type lives has its name in front of a type in the
record of some method. -/
theorem exists_printed_of_mem_foreignPaths {path : String}
    (foreign : path ∈ foreignPaths file table) :
    ∃ service ∈ services, ∃ method ∈ service.methods, ∃ name type,
      (method.input.name = name ++ "." ++ type ∨ method.output.name = name ++ "." ++ type)
        ∧ (closingScope options file table).names.find? name = some path := by
  rcases mem_foreignPaths_iff.mp foreign with ⟨mention, member, type, found, rfl, named, away⟩
  rw [← home_closingScope options file table] at away
  have qualified {printed : ResolvedType}
      (backed : (closingScope options file table).BacksRef table mention.ref printed) :
      ∃ name, printed.name = name ++ "." ++ type.name
        ∧ (closingScope options file table).names.find? name = some type.importPath := by
    rcases backed with ⟨held, heldFound, backs⟩
    obtain rfl := Option.some.inj (found.symm.trans heldFound)
    rcases backs.exists_qualifier named away with ⟨name, rfl, bound, _⟩
    exact ⟨name, rfl, bound⟩
  rcases List.mem_flatMap.mp member with ⟨declared, inFile, ofService⟩
  rcases List.mem_flatMap.mp ofService with ⟨method, inDeclared, ofMethod⟩
  rcases exists_record_of_mem records inFile with ⟨service, listed, record⟩
  rcases exists_record_of_mem record.methods inDeclared with ⟨resolved, inService, printed⟩
  refine ⟨service, listed, resolved, inService, ?_⟩
  rcases List.mem_cons.mp ofMethod with rfl | output
  · rcases qualified printed.input with ⟨name, written, bound⟩
    exact ⟨name, type.name, .inl written, bound⟩
  · obtain rfl := List.mem_singleton.mp output
    rcases qualified printed.output with ⟨name, written, bound⟩
    exact ⟨name, type.name, .inr written, bound⟩

variable (made : ((plugin options).generate file table).outcome = .ok (some stubs))

include made

/-- Some service needs a required package, if it is not `context` or some service has methods. -/
theorem exists_service_of_required {needed : Required}
    (called : needed = .context → ∃ service ∈ file.services, service.methods ≠ []) :
    ∃ service ∈ services, needed = .context → service.methods ≠ [] := by
  obtain ⟨declared, inFile, asked⟩ : ∃ declared ∈ file.services,
      needed = .context → declared.methods ≠ [] := by
    by_cases context : needed = .context
    · rcases called context with ⟨declared, inFile, methods⟩
      exact ⟨declared, inFile, fun _ => methods⟩
    · have some : file.services ≠ [] := by
        simpa [SchemaFile.hasServices] using (generate_eq_ok_some_iff.mp made).1
      rcases List.exists_mem_of_ne_nil _ some with ⟨declared, inFile⟩
      exact ⟨declared, inFile, fun same => absurd same context⟩
  rcases exists_record_of_mem records inFile with ⟨service, listed, record⟩
  refine ⟨service, listed, fun context empty => asked context ?_⟩
  exact List.length_eq_zero_iff.mp
    (record.methods.length_eq.trans (List.length_eq_zero_iff.mpr empty))

/-- The drafts of a file refer to every package that the file imports under the name it binds, to
`context` if a service has methods. -/
theorem exists_uses_of_binds {package path name : String}
    (binds : (stubs.assemble package).Binds path name)
    (called : path = "context" → ∃ service ∈ file.services, service.methods ≠ []) :
    ∃ draft ∈ fileDrafts options file.name services, Uses draft.code name := by
  have ofService {service : ResolvedService} (listed : service ∈ services)
      (uses : ∃ draft ∈ serviceDrafts options service, Uses draft.code name) :
      ∃ draft ∈ fileDrafts options file.name services, Uses draft.code name := by
    rcases uses with ⟨draft, member, uses⟩
    exact ⟨draft, .tail _ (List.mem_flatMap.mpr ⟨service, listed, member⟩), uses⟩
  have bound := find?_names_of_binds made package binds
  rcases (FileStubs.binds_assemble_iff (pairwise_path_of_generate made)).mp binds with
    recorded | ⟨_, required, _⟩
  · have foreign : path ∈ foreignPaths file table :=
      (mem_map_path_imports_iff made).mp (List.mem_map_of_mem (f := Go.Import.path) recorded)
    rcases exists_printed_of_mem_foreignPaths records foreign with
      ⟨service, listed, method, inService, held, type, printed, holds⟩
    obtain rfl := oneName_closingScope options file table _ _ _ holds bound
    exact ofService listed
      ⟨_, serverMethod_mem_serviceDrafts options inService, uses_of_printed method printed⟩
  · rw [packages_of_generate made] at required
    rcases List.mem_map.mp required with ⟨needed, _, rfl⟩
    have own := find?_names_closingScope options file table needed
    obtain rfl := oneName_closingScope options file table _ _ _ own bound
    have asked : needed = .context → ∃ service ∈ file.services, service.methods ≠ [] := by
      rintro rfl
      exact called rfl
    rcases exists_service_of_required records made asked with ⟨service, listed, methods⟩
    exact ofService listed (exists_uses_required options needed methods)

end Generated

/-- The fragments of a generated file are those of the drafts of its services. For every path that
the file imports, `context` set aside where no service has methods, a stretch of code in one of the
fragments uses the name that the file binds it to as a qualifier. -/
theorem imports_used {options : Options} {file : SchemaFile} {table : SymbolTable}
    {stubs : FileStubs}
    (made : ((plugin options).generate file table).outcome = .ok (some stubs)) (package : String) :
    ∃ services : List ResolvedService,
      services.map ResolvedService.raw = file.services.map Service.name ∧
      stubs.fragments = (fileDrafts options file.name services).map Draft.fragment ∧
      ∀ path name, (stubs.assemble package).Binds path name →
        (path = "context" → ∃ service ∈ file.services, service.methods ≠ []) →
          ∃ draft ∈ fileDrafts options file.name services,
            ∃ stretch ∈ stretchesAll draft.code,
              Within stretch draft.fragment.text ∧ Qualifies name stretch := by
  rcases exists_resolved_of_generate made with ⟨services, filled, records⟩
  refine ⟨services, map_raw_of_resolved records, ?drafted, ?used⟩
  case drafted =>
    rw [filled, map_fragment_fileDrafts]
  case used =>
    intro path name binds called
    rcases exists_uses_of_binds records made binds called with
      ⟨draft, member, stretch, inCode, qualifies⟩
    exact ⟨draft, member, stretch, inCode, Go.Code.within_text inCode, qualifies⟩

/-- Types of the framework's own package and of another one of its name have the file refer to both
by names of their own, beside the other required packages. -/
theorem imports_used_of_framework_type :
    let options : Options := { root := "rpc/" }
    let file : SchemaFile :=
      { name := "shop.proto", services := [⟨"Shop", []⟩, ⟨"Till", [⟨"Dial", "option", "slip"⟩]⟩] }
    let table := SymbolTable.ofEntries
      [⟨"option", "Option", "client", "rpc/client"⟩, ⟨"slip", "Slip", "client", "shop/client"⟩]
    ∃ stubs services,
      ((plugin options).generate file table).outcome = .ok (some stubs)
        ∧ stubs.fragments = (fileDrafts options file.name services).map Draft.fragment
        ∧ ∀ path name, (stubs.assemble "shop").Binds path name →
          ∃ draft ∈ fileDrafts options file.name services,
            ∃ stretch ∈ stretchesAll draft.code,
              Within stretch draft.fragment.text ∧ Qualifies name stretch := by
  intro options file table
  have complete : file.hasServices = true
      ∧ ∀ mention ∈ file.mentions, SortedMap.contains table mention.ref = true := by
    decide
  rcases exists_generate_eq_ok_iff.mpr complete with ⟨stubs, made⟩
  rcases imports_used made "shop" with ⟨services, _, drafted, used⟩
  refine ⟨stubs, services, made, drafted, fun path name binds => used path name binds fun _ => ?_⟩
  exact ⟨⟨"Till", [⟨"Dial", "option", "slip"⟩]⟩, by decide, by decide⟩

/-- A service without methods leaves `context` imported and not used: the file binds its name, but
nowhere in the code of its fragments does the name stand in front of a dot. -/
theorem unused_context_of_service_without_methods :
    let file : SchemaFile := { name := "shop.proto", services := [⟨"Shop", []⟩] }
    let table := SymbolTable.ofEntries []
    let services : List ResolvedService := [⟨"Shop", []⟩]
    ∃ stubs, ((plugin {}).generate file table).outcome = .ok (some stubs)
      ∧ (stubs.assemble "shop").Binds "context" "context"
      ∧ stubs.fragments = (fileDrafts {} file.name services).map Draft.fragment
      ∧ ∀ draft ∈ fileDrafts {} file.name services, ∀ stretch ∈ stretchesAll draft.code,
        ¬ Within "context." stretch := by
  intro file table services
  have resolved : (resolveServices table file.name file.services (openingScope {} file)).outcome =
      .ok (services, openingScope {} file) := by
    decide
  have made := generate_eq_ok_some_iff.mpr ⟨rfl, services, _, resolved, rfl⟩
  refine ⟨_, made, binds_required made "shop" .context, ?_, ?_⟩
  · exact (map_fragment_fileDrafts {} file.name services).symm
  · decide +kernel

end RpcStubs.Stub
