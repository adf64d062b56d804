import RpcStubs.Descriptor.Json
import RpcStubs.Proofs.Json.Fit

/-!
# The schema of descriptor sets

Which trees describe a descriptor set, and which set that is, in terms of keys and defaults alone.
The relations are what the shapes of the parts come down to (`DescriptorSet.fits_iff_describedBy`).
-/

namespace RpcStubs

open Json (Tree Shape Fields)

/-! ## Fields -/

namespace Json

/-- A tree is a list whose elements describe the values of a list. -/
def Tree.IsListOf {α : Type} (describes : Tree → α → Prop) (tree : Tree) (values : List α) : Prop :=
  ∃ items, tree = .list items ∧ List.Forall₂ describes items values

/-- What stands for a field with a default describes its value: a tree that does so, or nothing for
the default. -/
def OrDefault {α : Type} (describes : Tree → α → Prop) (default : α) (found : Option Tree)
    (value : α) : Prop :=
  match found with
  | none => value = default
  | some tree => describes tree value

/-- A tree is a text. -/
def Tree.IsText (tree : Tree) (value : String) : Prop :=
  tree = .text value

end Json

open Json (OrDefault)

/-! ## Records -/

/-- A tree describes a method: all three fields are there. -/
def Method.DescribedBy (tree : Tree) (method : Method) : Prop :=
  tree.HasFields ["name", "input_type", "output_type"]
    [some (.text method.name), some (.text method.input), some (.text method.output)]

/-- A tree describes a service: its name is there, and possibly its methods. -/
def Service.DescribedBy (tree : Tree) (service : Service) : Prop :=
  ∃ methods, tree.HasFields ["name", "methods"] [some (.text service.name), methods]
    ∧ OrDefault (Tree.IsListOf Method.DescribedBy) [] methods service.methods

/-- A tree describes a file: its name is there, and possibly the other fields. -/
def SchemaFile.DescribedBy (tree : Tree) (file : SchemaFile) : Prop :=
  ∃ package importPath services,
    tree.HasFields ["name", "package", "import_path", "services"]
      [some (.text file.name), package, importPath, services]
    ∧ OrDefault Tree.IsText "" package file.package
    ∧ OrDefault Tree.IsText "" importPath file.importPath
    ∧ OrDefault (Tree.IsListOf Service.DescribedBy) [] services file.services

/-- A tree describes a type: its reference and its name are there, and possibly the other fields. -/
def TypeEntry.DescribedBy (tree : Tree) (entry : TypeEntry) : Prop :=
  ∃ package importPath,
    tree.HasFields ["type_ref", "name", "package", "import_path"]
      [some (.text entry.ref), some (.text entry.name), package, importPath]
    ∧ OrDefault Tree.IsText "" package entry.package
    ∧ OrDefault Tree.IsText "" importPath entry.importPath

/-- A tree describes a set: either list may be left out. -/
def DescriptorSet.DescribedBy (tree : Tree) (set : DescriptorSet) : Prop :=
  ∃ files types, tree.HasFields ["files", "types"] [files, types]
    ∧ OrDefault (Tree.IsListOf SchemaFile.DescribedBy) [] files set.files
    ∧ OrDefault (Tree.IsListOf TypeEntry.DescribedBy) [] types set.types

/-! ## Shapes -/

namespace Json

section Fit

variable {key : String} {shape : Shape} {rest : Fields} {found : List (Option Tree)}
  {value : shape.Value} {values : rest.Values}

theorem fit_needed_iff :
    (Fields.field key true shape rest).Fit found (value, values) ↔
      ∃ tree others, found = some tree :: others ∧ shape.Fits tree value
        ∧ rest.Fit others values := by
  match found with
  | [] => simp [Fields.Fit]
  | none :: others => simp [Fields.Fit]
  | some tree :: others => simp [Fields.Fit]

theorem fit_optional_iff :
    (Fields.field key false shape rest).Fit found (value, values) ↔
      ∃ first others, found = first :: others ∧ OrDefault shape.Fits shape.empty first value
        ∧ rest.Fit others values := by
  match found with
  | [] => simp [Fields.Fit]
  | none :: others => simp [Fields.Fit, OrDefault]
  | some tree :: others => simp [Fields.Fit, OrDefault]

end Fit

section Lists

variable {item : Shape} {α : Type} {ofValue : item.Value → α} {describes : Tree → α → Prop}

theorem isListOf_map_iff (each : ∀ {tree value}, item.Fits tree value ↔ describes tree (ofValue value))
    {tree : Tree} {values : List item.Value} :
    (Shape.list item).Fits tree values ↔ tree.IsListOf describes (values.map ofValue) := by
  simp only [Shape.Fits, Tree.IsListOf, List.forall₂_map_right_iff, ← each]

theorem orDefault_map_iff
    (each : ∀ {tree value}, item.Fits tree value ↔ describes tree (ofValue value))
    {found : Option Tree} {values : List item.Value} :
    OrDefault (Shape.list item).Fits [] found values ↔
      OrDefault (Tree.IsListOf describes) [] found (values.map ofValue) := by
  cases found with
  | none => simp [OrDefault]
  | some tree => exact isListOf_map_iff each

end Lists

end Json

open Json (fit_needed_iff fit_optional_iff orDefault_map_iff)

theorem Method.fits_iff_describedBy {tree : Tree} {value : Method.shape.Value} :
    Method.shape.Fits tree value ↔ Method.DescribedBy tree (Method.ofValue value) := by
  constructor
  case mp =>
    rintro ⟨found, hasFields, fit⟩
    rcases fit_needed_iff.mp fit with ⟨_, _, rfl, rfl, behindName⟩
    rcases fit_needed_iff.mp behindName with ⟨_, _, rfl, rfl, behindInput⟩
    rcases fit_needed_iff.mp behindInput with ⟨_, _, rfl, rfl, rfl⟩
    exact hasFields
  case mpr =>
    intro hasFields
    exact ⟨_, hasFields, rfl, rfl, rfl, rfl⟩

theorem Service.fits_iff_describedBy {tree : Tree} {value : Service.shape.Value} :
    Service.shape.Fits tree value ↔ Service.DescribedBy tree (Service.ofValue value) := by
  have ofMethods {found : Option Tree} {values : List Method.shape.Value} :=
    @orDefault_map_iff _ _ _ _ Method.fits_iff_describedBy found values
  constructor
  case mp =>
    rintro ⟨found, hasFields, fit⟩
    rcases fit_needed_iff.mp fit with ⟨_, _, rfl, rfl, behindName⟩
    rcases fit_optional_iff.mp behindName with ⟨methods, _, rfl, methodsFit, rfl⟩
    exact ⟨methods, hasFields, ofMethods.mp methodsFit⟩
  case mpr =>
    rintro ⟨methods, hasFields, described⟩
    exact ⟨_, hasFields, rfl, fit_optional_iff.mpr ⟨_, _, rfl, ofMethods.mpr described, rfl⟩⟩

theorem SchemaFile.fits_iff_describedBy {tree : Tree} {value : SchemaFile.shape.Value} :
    SchemaFile.shape.Fits tree value ↔ SchemaFile.DescribedBy tree (SchemaFile.ofValue value) := by
  have ofServices {found : Option Tree} {values : List Service.shape.Value} :=
    @orDefault_map_iff _ _ _ _ Service.fits_iff_describedBy found values
  constructor
  case mp =>
    rintro ⟨found, hasFields, fit⟩
    rcases fit_needed_iff.mp fit with ⟨_, _, rfl, rfl, behindName⟩
    rcases fit_optional_iff.mp behindName with ⟨package, _, rfl, packageFits, behindPackage⟩
    rcases fit_optional_iff.mp behindPackage with ⟨importPath, _, rfl, importFits, behindImport⟩
    rcases fit_optional_iff.mp behindImport with ⟨services, _, rfl, servicesFit, rfl⟩
    exact ⟨package, importPath, services, hasFields, packageFits, importFits,
      ofServices.mp servicesFit⟩
  case mpr =>
    rintro ⟨package, importPath, services, hasFields, packageFits, importFits, described⟩
    refine ⟨_, hasFields, rfl, fit_optional_iff.mpr ⟨_, _, rfl, packageFits, ?_⟩⟩
    refine fit_optional_iff.mpr ⟨_, _, rfl, importFits, ?_⟩
    exact fit_optional_iff.mpr ⟨_, _, rfl, ofServices.mpr described, rfl⟩

theorem TypeEntry.fits_iff_describedBy {tree : Tree} {value : TypeEntry.shape.Value} :
    TypeEntry.shape.Fits tree value ↔ TypeEntry.DescribedBy tree (TypeEntry.ofValue value) := by
  constructor
  case mp =>
    rintro ⟨found, hasFields, fit⟩
    rcases fit_needed_iff.mp fit with ⟨_, _, rfl, rfl, behindRef⟩
    rcases fit_needed_iff.mp behindRef with ⟨_, _, rfl, rfl, behindName⟩
    rcases fit_optional_iff.mp behindName with ⟨package, _, rfl, packageFits, behindPackage⟩
    rcases fit_optional_iff.mp behindPackage with ⟨importPath, _, rfl, importFits, rfl⟩
    exact ⟨package, importPath, hasFields, packageFits, importFits⟩
  case mpr =>
    rintro ⟨package, importPath, hasFields, packageFits, importFits⟩
    refine ⟨_, hasFields, rfl, rfl, fit_optional_iff.mpr ⟨_, _, rfl, packageFits, ?_⟩⟩
    exact fit_optional_iff.mpr ⟨_, _, rfl, importFits, rfl⟩

theorem DescriptorSet.fits_iff_describedBy {tree : Tree} {value : DescriptorSet.shape.Value} :
    DescriptorSet.shape.Fits tree value ↔
      DescriptorSet.DescribedBy tree (DescriptorSet.ofValue value) := by
  have ofFiles {found : Option Tree} {values : List SchemaFile.shape.Value} :=
    @orDefault_map_iff _ _ _ _ SchemaFile.fits_iff_describedBy found values
  have ofTypes {found : Option Tree} {values : List TypeEntry.shape.Value} :=
    @orDefault_map_iff _ _ _ _ TypeEntry.fits_iff_describedBy found values
  constructor
  case mp =>
    rintro ⟨found, hasFields, fit⟩
    rcases fit_optional_iff.mp fit with ⟨files, _, rfl, filesFit, behindFiles⟩
    rcases fit_optional_iff.mp behindFiles with ⟨types, _, rfl, typesFit, rfl⟩
    exact ⟨files, types, hasFields, ofFiles.mp filesFit, ofTypes.mp typesFit⟩
  case mpr =>
    rintro ⟨files, types, hasFields, filesDescribed, typesDescribed⟩
    refine ⟨_, hasFields, fit_optional_iff.mpr ⟨_, _, rfl, ofFiles.mpr filesDescribed, ?_⟩⟩
    exact fit_optional_iff.mpr ⟨_, _, rfl, ofTypes.mpr typesDescribed, rfl⟩

end RpcStubs
