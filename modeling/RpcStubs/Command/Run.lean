import RpcStubs.Command.Request
import RpcStubs.Command.Script
import RpcStubs.Descriptor.Error
import RpcStubs.Generation.Generator
import RpcStubs.Path.Parent

/-!
# Doing what is asked

Stubs are generated for all files of a descriptor set before the first of them is written. They are
then written one after the other; one that would leave the output directory ends the run, and those
before it remain.
-/

namespace RpcStubs.Command

open Log (Journaled)

/-- The descriptor set in a file whose text was read, unless the system refused. -/
def loaded (path : String) : Except String String → Except LoadError DescriptorSet
  | .error reason => .error (.unreadable path reason)
  | .ok text => DescriptorSet.load (some path) text

namespace Request

/-- The files generated for a request. Faulty options are reported before a faulty set. -/
def generated (request : Request) (text : Except String String) :
    Journaled Failure (List GeneratedFile) := do
  let options ← .ofExcept <|
    (Options.ofText? request.options).mapError fun error => .told error.diagnostic
  let set ← .ofExcept <|
    (loaded request.descriptors text).mapError fun error => .told error.diagnostic
  Journaled.note [.loaded set.files.length set.types.length options.plugin]
  ((Generator.ofOptions options).run set).mapError fun error => .told error.diagnostic

end Request

/-- A generated file as it is printed. -/
def printed (file : GeneratedFile) : String :=
  "// ---- " ++ file.path ++ " ----\n" ++ file.content

/-- What is done to write a file. -/
def storing (path content : String) : List Step :=
  (Path.parent? path).toList.map .makeDirectories
    ++ [.write path content, .log (.event none (.wrote path))]

/-- What is done to write generated files below a directory. -/
def store (directory : String) : List GeneratedFile → Script
  | [] => {}
  | file :: rest =>
      match Path.below? directory file.path with
      | none => .fail (.escapes file.path)
      | some path => .after (storing path file.content) (store directory rest)

/-- The directory that files go to unless one is given. -/
def defaultDirectory : String :=
  "."

/-- What is done with generated files. -/
def deliver (files : List GeneratedFile) : Destination → Script
  | .standardOutput => { steps := files.map fun file => .print (printed file) }
  | .directory path => store (path.getD defaultDirectory) files

namespace Request

/-- What is done for a request when its files are generated. -/
def conclude (request : Request) (files : List GeneratedFile) : Script :=
  match request with
  | generate descriptors _ destination =>
      if files.isEmpty then { steps := [.log (.event none (.nothing descriptors))] }
      else deliver files destination
  | check _ _ =>
      { steps :=
          [.log (.event none (.checked files.length)),
            .print ("ok: " ++ toString files.length ++ " file(s) with services\n")] }

/-- What is done for a request with the text of its descriptor set. -/
def script (request : Request) (text : Except String String) : Script :=
  .ofJournaled (request.generated text) request.conclude

end Request

end RpcStubs.Command
