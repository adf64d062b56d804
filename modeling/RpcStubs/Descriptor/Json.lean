import RpcStubs.Descriptor.Basic
import RpcStubs.Json.Read
import RpcStubs.Json.Tree

/-!
# Descriptor sets as JSON

The shapes of a descriptor set and its parts, the values they stand for, and the two directions
between sets and texts. What is a list of fields in a shape is a structure here; the two are the
same values (`ofValue_toValue`).
-/

namespace RpcStubs

open Json (Shape Fields)

namespace Method

/-- A method has three texts, all needed. -/
abbrev shape : Shape :=
  .record "MethodDeclaration"
    (.field "name" true .text (.field "input_type" true .text
      (.field "output_type" true .text .done)))

/-- The method with some field values. -/
def ofValue (value : shape.Value) : Method :=
  ⟨value.1, value.2.1, value.2.2.1⟩

/-- The field values of a method. -/
def toValue (method : Method) : shape.Value :=
  (method.name, method.input, method.output, ())

theorem ofValue_toValue (method : Method) : ofValue method.toValue = method :=
  rfl

end Method

namespace Service

/-- A service has a name and possibly methods. -/
abbrev shape : Shape :=
  .record "ServiceDeclaration"
    (.field "name" true .text (.field "methods" false (.list Method.shape) .done))

/-- The service with some field values. -/
def ofValue (value : shape.Value) : Service :=
  ⟨value.1, value.2.1.map Method.ofValue⟩

/-- The field values of a service. -/
def toValue (service : Service) : shape.Value :=
  (service.name, service.methods.map Method.toValue, ())

theorem ofValue_toValue (service : Service) : ofValue service.toValue = service := by
  have methods : Method.ofValue ∘ Method.toValue = id := funext Method.ofValue_toValue
  simp [ofValue, toValue, methods]

end Service

namespace SchemaFile

/-- A file has a name and possibly a package, an import path and services. -/
abbrev shape : Shape :=
  .record "CompiledFile"
    (.field "name" true .text (.field "package" false .text (.field "import_path" false .text
      (.field "services" false (.list Service.shape) .done))))

/-- The file with some field values. -/
def ofValue (value : shape.Value) : SchemaFile :=
  ⟨value.1, value.2.1, value.2.2.1, value.2.2.2.1.map Service.ofValue⟩

/-- The field values of a file. -/
def toValue (file : SchemaFile) : shape.Value :=
  (file.name, file.package, file.importPath, file.services.map Service.toValue, ())

theorem ofValue_toValue (file : SchemaFile) : ofValue file.toValue = file := by
  have services : Service.ofValue ∘ Service.toValue = id := funext Service.ofValue_toValue
  simp [ofValue, toValue, services]

end SchemaFile

namespace TypeEntry

/-- A type has a reference and a name, and possibly a package and an import path. -/
abbrev shape : Shape :=
  .record "TypeEntry"
    (.field "type_ref" true .text (.field "name" true .text (.field "package" false .text
      (.field "import_path" false .text .done))))

/-- The type with some field values. -/
def ofValue (value : shape.Value) : TypeEntry :=
  ⟨value.1, value.2.1, value.2.2.1, value.2.2.2.1⟩

/-- The field values of a type. -/
def toValue (entry : TypeEntry) : shape.Value :=
  (entry.ref, entry.name, entry.package, entry.importPath, ())

theorem ofValue_toValue (entry : TypeEntry) : ofValue entry.toValue = entry :=
  rfl

end TypeEntry

namespace DescriptorSet

/-- A descriptor set has files and types, either of which may be left out. -/
abbrev shape : Shape :=
  .record "DescriptorSet"
    (.field "files" false (.list SchemaFile.shape)
      (.field "types" false (.list TypeEntry.shape) .done))

/-- The set with some field values. -/
def ofValue (value : shape.Value) : DescriptorSet :=
  ⟨value.1.map SchemaFile.ofValue, value.2.1.map TypeEntry.ofValue⟩

/-- The field values of a set. -/
def toValue (set : DescriptorSet) : shape.Value :=
  (set.files.map SchemaFile.toValue, set.types.map TypeEntry.toValue, ())

theorem ofValue_toValue (set : DescriptorSet) : ofValue set.toValue = set := by
  have files : SchemaFile.ofValue ∘ SchemaFile.toValue = id := funext SchemaFile.ofValue_toValue
  have types : TypeEntry.ofValue ∘ TypeEntry.toValue = id := funext TypeEntry.ofValue_toValue
  simp [ofValue, toValue, files, types]

/-- The set that a text describes. -/
def parse (text : String) : Except Json.Fault DescriptorSet :=
  (shape.parse text).map ofValue

/-- The compact text that describes a set. -/
def text (set : DescriptorSet) : String :=
  (shape.tree set.toValue).compact

end DescriptorSet

end RpcStubs
