import RpcStubs.Go.File
import RpcStubs.Stub.Plugin

/-!
# Generators

A generator holds plugins, one of a name, and runs the one that its options select over the files of
a descriptor set. The first file that fails ends the run, and nothing of it remains.
-/

namespace RpcStubs

open Log (Journaled)

/-- A generated file: where it goes, relative to an output directory, and what it holds. -/
structure GeneratedFile where
  path : String
  content : String
deriving Repr, DecidableEq, Inhabited

namespace Stub

/-- The file after one instruction. -/
def Instruction.apply (file : Go.File) : Instruction → Go.File
  | declare path => file.declare path
  | declareNamed item => file.declareNamed item
  | print fragment => file.print fragment.text

/-- The Go file of a package that holds some stubs. -/
def FileStubs.assemble (stubs : FileStubs) (package : String) : Go.File :=
  stubs.instructions.foldl Instruction.apply { package }

/-- The file generated for a schema file with some stubs. -/
def FileStubs.generated (stubs : FileStubs) (file : SchemaFile) : GeneratedFile where
  path := SchemaFile.outputPath file.name
  content := (stubs.assemble file.goPackage).render

end Stub

/-- Plugins, and the name of the one to run. -/
structure Generator where
  plugins : List Plugin
  selected : String

namespace Generator

/-- The generator with one more plugin, in place of an earlier one of that name. -/
def register (generator : Generator) (plugin : Plugin) : Generator :=
  { generator with
    plugins := (generator.plugins.filter fun other => other.name != plugin.name) ++ [plugin] }

/-- The generator for some options, with the plugin that is built in. -/
def ofOptions (options : Options) : Generator :=
  register ⟨[], options.plugin⟩ (Stub.plugin options)

/-- The names of the plugins, in the order in which they were last registered. -/
def pluginNames (generator : Generator) : List String :=
  generator.plugins.map Plugin.name

/-- The plugin to run. -/
def plugin? (generator : Generator) : Option Plugin :=
  generator.plugins.find? fun plugin => plugin.name == generator.selected

/-- The files that a plugin generates for schema files, in order. -/
def generateFiles (plugin : Plugin) (table : SymbolTable) :
    List SchemaFile → Journaled GenerationError (List GeneratedFile)
  | [] => return []
  | file :: rest => do
      let stubs ← (plugin.generate file table).noteFailure fun error => [.failed file.name error]
      let later ← generateFiles plugin table rest
      return (stubs.map (·.generated file)).toList ++ later

/-- The files that a plugin generates for a descriptor set. -/
def generateWith (plugin : Plugin) (set : DescriptorSet) :
    Journaled GenerationError (List GeneratedFile) := do
  let table := set.symbolTable
  if table.isEmpty && set.files.any SchemaFile.hasServices then
    Journaled.note [.noTypes]
  Journaled.note [.starting plugin.name table.size]
  let generated ← generateFiles plugin table set.files
  Journaled.note [.complete generated.length set.files.length]
  return generated

/-- The files generated for a descriptor set, with the journal of the run. -/
def run (generator : Generator) (set : DescriptorSet) :
    Journaled GenerationError (List GeneratedFile) :=
  match generator.plugin? with
  | some plugin => generateWith plugin set
  | none =>
      (Journaled.fail (.unknownPlugin generator.selected)).noteFailure fun _ =>
        [.noPlugin generator.selected generator.pluginNames]

/-- The files generated for a descriptor set. -/
def generate (generator : Generator) (set : DescriptorSet) :
    Except GenerationError (List GeneratedFile) :=
  (generator.run set).outcome

end Generator

end RpcStubs
