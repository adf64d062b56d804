import RpcStubs.Proofs.Stub.Collision
import RpcStubs.Proofs.Stub.Imports

/-!
# Declared names

Every fragment is the text of some code, and that code says what it declares at the top level of the
file: its types and its functions. For each service these are the eight identifiers of its exported
name, so a file repeats a declaration exactly where two services share a name or have names that
collide (`nodup_declared_iff`).
-/

namespace RpcStubs

/-- The names that a piece of code declares at the top level of a file. A method is declared under
its receiver. -/
def Go.Code.declared : Go.Code → List String
  | struct name _ => [name]
  | func none name _ _ _ => [name]
  | _ => []

namespace Stub

/-- A fragment before its code is laid out. -/
structure Draft where
  role : Role
  code : List Go.Code

namespace Draft

/-- The fragment that a draft becomes. -/
def fragment (draft : Draft) : Fragment :=
  .ofCode draft.role draft.code

/-- The names that a draft declares at the top level. -/
def declared (draft : Draft) : List String :=
  draft.code.flatMap Go.Code.declared

end Draft

/-- The drafts of a service: the server, the dispatching client and the single-target client, each
followed by its methods in order. -/
def serviceDrafts (options : Options) (service : ResolvedService) : List Draft :=
  ⟨.serverSkeleton, serverSkeletonCode service options⟩
      :: service.methods.map (fun method => ⟨.serverMethod, serverMethodCode service method⟩)
    ++ ⟨.clientWrapper, clientWrapperCode service options⟩
      :: service.methods.map (fun method => ⟨.clientMethod, clientMethodCode service method⟩)
    ++ ⟨.oneClientWrapper, oneClientWrapperCode service options⟩
      :: service.methods.map (fun method => ⟨.oneClientMethod, oneClientMethodCode service method⟩)

/-- The drafts of a file. -/
def fileDrafts (options : Options) (file : String) (services : List ResolvedService) : List Draft :=
  ⟨.provenance, provenanceCode file⟩ :: services.flatMap (serviceDrafts options)

theorem map_fragment_serviceDrafts (options : Options) (service : ResolvedService) :
    (serviceDrafts options service).map Draft.fragment = serviceFragments options service := by
  simp only [serviceDrafts, serviceFragments, List.map_append, List.map_cons, List.map_map]
  rfl

theorem map_fragment_fileDrafts (options : Options) (file : String)
    (services : List ResolvedService) :
    (fileDrafts options file services).map Draft.fragment =
      fileFragments options file services := by
  rw [fileDrafts, fileFragments, List.map_cons, List.map_flatMap]
  simp only [map_fragment_serviceDrafts]
  rfl

/-! ## What drafts declare -/

/-- Drafts that hold only methods declare nothing at the top level. -/
theorem flatMap_declared_methods {draft : ResolvedMethod → Draft}
    (none : ∀ method, (draft method).declared = []) (methods : List ResolvedMethod) :
    (methods.map draft).flatMap Draft.declared = [] := by
  rw [List.flatMap_map, List.flatMap_eq_nil_iff]
  exact fun method _ => none method

theorem flatMap_declared_serviceDrafts (options : Options) (service : ResolvedService) :
    (serviceDrafts options service).flatMap Draft.declared = spellings service.exported := by
  simp only [serviceDrafts, List.flatMap_append, List.flatMap_cons]
  rw [flatMap_declared_methods fun _ => rfl, flatMap_declared_methods fun _ => rfl,
    flatMap_declared_methods fun _ => rfl]
  rfl

/-- The drafts of a file declare the identifiers of its services and nothing else. -/
theorem flatMap_declared_fileDrafts (options : Options) (file : String)
    (services : List ResolvedService) :
    (fileDrafts options file services).flatMap Draft.declared =
      (services.map ResolvedService.exported).flatMap spellings := by
  have provenance : Draft.declared ⟨.provenance, provenanceCode file⟩ = [] := rfl
  rw [fileDrafts, List.flatMap_cons, provenance, List.nil_append, List.flatMap_assoc,
    List.flatMap_map]
  simp only [flatMap_declared_serviceDrafts]

/-! ## Generated files -/

section Generated

variable {options : Options} {file : SchemaFile} {table : SymbolTable} {stubs : FileStubs}

theorem map_raw_of_resolved {form : String → ResolvedType → Prop} {services : List Service}
    {resolved : List ResolvedService}
    (records : List.Forall₂ (ServiceResolved form) services resolved) :
    resolved.map ResolvedService.raw = services.map Service.name := by
  induction records with
  | nil => rfl
  | cons record _ ih => rw [List.map_cons, List.map_cons, record.raw, ih]

/-- Stubs made for a file are drafts of its services, and these declare the identifiers of the
exported names of the services. -/
theorem exists_drafts_of_generate
    (made : ((plugin options).generate file table).outcome = .ok (some stubs)) :
    ∃ services : List ResolvedService,
      services.map ResolvedService.raw = file.services.map Service.name
        ∧ stubs.fragments = (fileDrafts options file.name services).map Draft.fragment
        ∧ (fileDrafts options file.name services).flatMap Draft.declared =
          (file.services.map fun service => Go.exported service.name).flatMap spellings := by
  rcases exists_resolved_of_generate made with ⟨services, rfl, records⟩
  have names := map_raw_of_resolved records
  refine ⟨services, names, ?_, ?_⟩
  · exact (map_fragment_fileDrafts options file.name services).symm
  · have exported : services.map ResolvedService.exported =
        file.services.map fun service => Go.exported service.name := by
      have throughRaw := congrArg (List.map Go.exported) names
      rwa [List.map_map, List.map_map] at throughRaw
    rw [flatMap_declared_fileDrafts, exported]

/-- The fragments made for a file declare the eight identifiers of each service, one service after
the other. All these are different exactly where the exported names of the services are and no two
of the names collide. -/
theorem nodup_declared_iff
    (made : ((plugin options).generate file table).outcome = .ok (some stubs)) :
    let names := file.services.map fun service => Go.exported service.name
    ∃ services : List ResolvedService,
      services.map ResolvedService.raw = file.services.map Service.name
        ∧ stubs.fragments = (fileDrafts options file.name services).map Draft.fragment
        ∧ (fileDrafts options file.name services).flatMap Draft.declared =
          names.flatMap (fun name => Identifier.all.map (·.spell name))
        ∧ (((fileDrafts options file.name services).flatMap Draft.declared).Nodup ↔
          names.Nodup ∧ names.Pairwise fun first second =>
            ¬ Collides first second ∧ ¬ Collides second first) := by
  intro names
  rcases exists_drafts_of_generate made with ⟨services, raw, drafted, declared⟩
  refine ⟨services, raw, drafted, declared, ?_⟩
  rw [declared]
  exact nodup_flatMap_spellings_iff

/-- A file whose services share an ending declares each identifier once: `Client` behind both names
is no collision. -/
theorem nodup_declared_of_shared_ending :
    let file : SchemaFile := {
      name := "shop.proto"
      services := [⟨"shopClient", [⟨"Buy", "item", "item"⟩]⟩, ⟨"TillClient", []⟩] }
    let table := SymbolTable.ofEntries [⟨"item", "Item", "", ""⟩]
    ∃ stubs services,
      ((plugin {}).generate file table).outcome = .ok (some stubs)
        ∧ stubs.fragments = (fileDrafts {} file.name services).map Draft.fragment
        ∧ ((fileDrafts {} file.name services).flatMap Draft.declared).Nodup := by
  intro file table
  have complete : file.hasServices = true
      ∧ ∀ mention ∈ file.mentions, SortedMap.contains table mention.ref = true := by
    decide
  rcases exists_generate_eq_ok_iff.mpr complete with ⟨stubs, made⟩
  rcases nodup_declared_iff made with ⟨services, _, drafted, _, distinct⟩
  exact ⟨stubs, services, made, drafted, distinct.mpr (by decide)⟩

/-- Services of different names may repeat a declaration: the dispatching client of `ShopOne` has
the type name of the single-target client of `Shop`. -/
theorem repeated_declaration_of_wrapped_name :
    let file : SchemaFile :=
      { name := "shop.proto", services := [⟨"Shop", []⟩, ⟨"ShopOne", []⟩] }
    let table := SymbolTable.ofEntries []
    (file.services.map fun service => Go.exported service.name).Nodup
      ∧ ∃ stubs services,
        ((plugin {}).generate file table).outcome = .ok (some stubs)
          ∧ stubs.fragments = (fileDrafts {} file.name services).map Draft.fragment
          ∧ ((fileDrafts {} file.name services).flatMap Draft.declared).count "ShopOneClient" = 2
          ∧ ¬ ((fileDrafts {} file.name services).flatMap Draft.declared).Nodup := by
  intro file table
  have complete : file.hasServices = true
      ∧ ∀ mention ∈ file.mentions, SortedMap.contains table mention.ref = true := by
    decide
  rcases exists_generate_eq_ok_iff.mpr complete with ⟨stubs, made⟩
  rcases exists_drafts_of_generate made with ⟨services, _, drafted, declared⟩
  refine ⟨by decide, stubs, services, made, drafted, ?_⟩
  rw [declared]
  decide

end Generated

end Stub

end RpcStubs
