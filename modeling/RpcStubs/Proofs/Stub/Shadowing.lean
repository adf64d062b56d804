import RpcStubs.Proofs.Stub.Family
import RpcStubs.Proofs.Stub.Imports
import RpcStubs.Proofs.Symbol.Newcomer

/-!
# Qualifiers behind the names of a stub

In the body of a stub the names that the stub itself binds stand in front of the names of imported
packages. None of them ends in a digit and none is that of a required package, so they are never
made up for a package that asks for another name. A qualifier is hidden in a stub exactly where one
of these names is asked for by a new package and no package before it has asked for it
(`shadowed_iff`).
-/

namespace RpcStubs.Stub

/-- The types of a file that bring along a path for which the file needs a new name. -/
def newcomers (options : Options) (file : SchemaFile) (table : SymbolTable) : List GoType :=
  GoType.newcomers ("" :: file.importPath :: Required.importPaths options.root)
    ((file.mentions.map Mention.ref).filterMap table.find?)

/-! ## Names that a package asks for -/

section Closing

variable (options : Options) (file : SchemaFile) (table : SymbolTable)

/-- At the start of a file the empty path, the path of the file and those of the required packages
need no name. -/
theorem knows_openingScope :
    (openingScope options file).Knows
      ("" :: file.importPath :: Required.importPaths options.root) := by
  intro path
  rw [List.mem_cons, List.mem_cons, home_openingScope]
  refine or_congr_right (or_congr_right ⟨?held, ?required⟩)
  case held =>
    intro required
    rcases List.mem_map.mp required with ⟨package, _, rfl⟩
    exact ⟨package.name, find?_names_openingScope options file package⟩
  case required =>
    rintro ⟨name, bound⟩
    rcases exists_required_of_find?_names_openingScope bound with ⟨package, _, rfl⟩
    exact Required.importPath_mem_importPaths options.root package

/-- A name without a number that is not that of a required package goes to the first newcomer that
asks for it. -/
theorem find?_names_closingScope_of_unnumbered {name : String}
    (unnumbered : ImportScope.Unnumbered name) (other : ∀ package : Required, name ≠ package.name) :
    (closingScope options file table).names.find? name =
      ((newcomers options file table).find? fun type => type.qualifier = name).map
        GoType.importPath := by
  have free : (openingScope options file).names.find? name = none := by
    cases held : (openingScope options file).names.find? name with
    | none => rfl
    | some path =>
        rcases exists_required_of_find?_names_openingScope held with ⟨package, same, _⟩
        exact absurd same (other package)
  rw [closingScope_eq_after, resolutions]
  exact ImportScope.find?_names_after_resolves (knows_openingScope options file) unnumbered free
    table (file.mentions.map Mention.ref)

end Closing

/-- The names that a stub binds have no number and are not those of required packages. -/
theorem unnumbered_of_mem_names {service : ResolvedService} {method : ResolvedMethod}
    {family : Family} {name : String} (member : name ∈ (family.signature service method).names) :
    ImportScope.Unnumbered name ∧ ∀ package : Required, name ≠ package.name := by
  have endings : ∀ name ∈ [family.receiverName, "ctx", "args", "reply", "err"],
      name.toList.getLast?.map Char.isDigit = some false := by
    cases family <;> decide
  have others : ∀ name ∈ [family.receiverName, "ctx", "args", "reply", "err"],
      ∀ package ∈ Required.all, name ≠ package.name := by
    cases family <;> decide
  rw [Family.names_signature] at member
  rcases Option.map_eq_some_iff.mp (endings name member) with ⟨c, last, noDigit⟩
  exact ⟨ImportScope.unnumbered_of_getLast? last noDigit,
    fun package => others name member package (Required.mem_all package)⟩

/-! ## Generated stubs -/

section Generated

variable {options : Options} {file : SchemaFile} {table : SymbolTable}

/-- A type that the closing scope prints with a qualifier is recorded with the path that the
qualifier is bound to. -/
theorem qualified_of_backsRef {ref : String} {printed : ResolvedType} {item : Go.Import}
    (backed : (closingScope options file table).BacksRef table ref printed)
    (origin : printed.origin = some item) :
    (∃ type, printed.name = item.name ++ "." ++ type)
      ∧ item ∈ SortedSet.toList (closingScope options file table).imports
      ∧ (closingScope options file table).names.find? item.name = some item.path := by
  rcases backed with ⟨type, _, backs⟩
  cases backs with
  | bare _ => cases origin
  | qualified _ bound recorded =>
      obtain rfl := Option.some.inj origin
      exact ⟨⟨type.name, rfl⟩, recorded, bound⟩

/-- A path that holds a name in the end holds one of those that a stub binds exactly where it is the
path of the first newcomer that asks for one of these. -/
theorem mem_names_iff {service : ResolvedService} {method : ResolvedMethod} {family : Family}
    {name path : String} (bound : (closingScope options file table).names.find? name = some path) :
    name ∈ (family.signature service method).names ↔
      ∃ asked ∈ (family.signature service method).names,
        ((newcomers options file table).find? fun type => type.qualifier = asked).map
          GoType.importPath = some path := by
  have goes : ∀ asked ∈ (family.signature service method).names,
      (closingScope options file table).names.find? asked =
        ((newcomers options file table).find? fun type => type.qualifier = asked).map
          GoType.importPath := by
    intro asked member
    rcases unnumbered_of_mem_names member with ⟨unnumbered, other⟩
    exact find?_names_closingScope_of_unnumbered options file table unnumbered other
  constructor
  · intro member
    exact ⟨name, member, (goes name member).symm.trans bound⟩
  · rintro ⟨asked, member, first⟩
    -- In the end a path holds one name only, so the name that it asked for is the one it has.
    have held := (goes asked member).trans first
    rwa [oneName_closingScope options file table path name asked bound held]

/-- Every stub of a method makes an empty message of its output type under the names that its
signature binds. Where the type is printed with a qualifier, the file imports the path of the type
under it, and the names of the stub hide it exactly where the first newcomer that asks for one of
these names comes from that path. -/
theorem shadowed_iff {stubs : FileStubs}
    (made : ((plugin options).generate file table).outcome = .ok (some stubs)) :
    ∃ services,
      stubs.fragments = provenance file.name :: services.flatMap (fun service =>
        Family.all.flatMap fun family =>
          family.wrapper options service ::
            service.methods.map fun method => family.methodStub service method) ∧
      List.Forall₂ (ServiceResolved ((closingScope options file table).BacksRef table))
        file.services services ∧
      ∀ service ∈ services, ∀ method ∈ service.methods, ∀ family : Family,
        let signature := family.signature service method
        (∃ words body, family.methodStub service method =
            .ofCode family.methodRole [.comment words, signature.method method.exported body]
          ∧ .line (family.emptyReply method) ∈ body) ∧
        ∀ item, method.output.origin = some item →
          (∃ type, method.output.name = item.name ++ "." ++ type)
            ∧ item ∈ SortedSet.toList stubs.imports
            ∧ (item.name ∈ signature.names ↔ ∃ name ∈ signature.names,
              ((newcomers options file table).find? fun type => type.qualifier = name).map
                GoType.importPath = some item.path) := by
  rcases exists_resolved_of_generate made with ⟨services, rfl, records⟩
  refine ⟨services, fileFragments_eq options file.name services, records, ?_⟩
  intro service inServices method inService family signature
  refine ⟨Family.exists_methodStub_eq service method family, ?_⟩
  intro item origin
  rcases exists_methodResolved_of_mem records inServices inService with ⟨declared, record⟩
  rcases qualified_of_backsRef record.output origin with ⟨printed, recorded, bound⟩
  exact ⟨printed, recorded, mem_names_iff bound⟩

end Generated

/-- Where a package of the input type asks for `reply` first, the package of the output type gets a
name that no stub hides. -/
theorem shadowed_iff_of_numbered_name :
    let file : SchemaFile :=
      { name := "shop.proto", services := [⟨"Shop", [⟨"Buy", "in", "out"⟩]⟩] }
    let table := SymbolTable.ofEntries
      [⟨"in", "Item", "reply", "shop/reply"⟩, ⟨"out", "Slip", "reply", "till/reply"⟩]
    ∃ stubs, ((plugin {}).generate file table).outcome = .ok (some stubs)
      ∧ ∃ services, List.Forall₂ (ServiceResolved ((closingScope {} file table).BacksRef table))
          file.services services
        ∧ ∀ service ∈ services, ∀ method ∈ service.methods, ∀ family : Family,
          ∀ item, method.output.origin = some item →
            item.path = "till/reply" → item.name ∉ (family.signature service method).names := by
  intro file table
  have complete : file.hasServices = true
      ∧ ∀ mention ∈ file.mentions, SortedMap.contains table mention.ref = true := by
    decide
  rcases exists_generate_eq_ok_iff.mpr complete with ⟨stubs, made⟩
  rcases shadowed_iff made with ⟨services, _, records, hides⟩
  refine ⟨stubs, made, services, records, ?_⟩
  intro service inServices method inService family item origin path
  rcases hides service inServices method inService family with ⟨_, qualified⟩
  rcases qualified item origin with ⟨_, _, hidden⟩
  rw [hidden, path, Family.names_signature]
  cases family <;> decide

/-- A package `err` lends its name to its types, and each stub hides it behind its own `err`. -/
theorem shadowed_qualifier_of_error_package :
    let file : SchemaFile :=
      { name := "shop.proto", services := [⟨"Shop", [⟨"Buy", "item", "item"⟩]⟩] }
    let table := SymbolTable.ofEntries [⟨"item", "Item", "err", "shop/err"⟩]
    ∃ stubs service method, ((plugin {}).generate file table).outcome = .ok (some stubs)
      ∧ method.output = ⟨"err.Item", some ⟨"shop/err", "err"⟩⟩
      ∧ ∀ family : Family, family.methodStub service method ∈ stubs.fragments
        ∧ (∃ words body, family.methodStub service method =
            .ofCode family.methodRole
              [.comment words, (family.signature service method).method method.exported body]
          ∧ .line (family.emptyReply method) ∈ body)
        ∧ "err" ∈ (family.signature service method).names := by
  intro file table
  let item : ResolvedType := ⟨"err.Item", some ⟨"shop/err", "err"⟩⟩
  let method : ResolvedMethod := ⟨"Buy", item, item⟩
  let service : ResolvedService := ⟨"Shop", [method]⟩
  have resolved : (resolveServices table file.name file.services
      (openingScope {} file)).outcome.map Prod.fst = .ok [service] := by
    decide
  cases answer : (resolveServices table file.name file.services (openingScope {} file)).outcome with
  | error fault =>
      rw [answer] at resolved
      contradiction
  | ok result =>
      rcases result with ⟨services, scope⟩
      rw [answer] at resolved
      obtain rfl := Except.ok.inj resolved
      refine ⟨_, service, method,
        generate_eq_ok_some_iff.mpr ⟨rfl, [service], scope, answer, rfl⟩, rfl, fun family => ?_⟩
      refine ⟨?_, Family.exists_methodStub_eq service method family, ?_⟩
      · simp only [fileFragments_eq]
        cases family <;> simp [service, Family.all]
      · simp [Family.names_signature]

end RpcStubs.Stub
