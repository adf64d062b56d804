import RpcStubs.Generation.Error
import RpcStubs.Text.Quoted

/-!
# Log events

Each thing worth a line in the log is an event of its own; its level, the part of the program it
comes from, its words and its fields follow from the event.
-/

namespace RpcStubs.Log

/-- How important an event is. -/
inductive Level where
  | error
  | warn
  | info
  | debug
  | trace
deriving Repr, DecidableEq, Inhabited

namespace Level

/-- A level as the log writes it. -/
def word : Level → String
  | error => "ERROR"
  | warn => "WARN"
  | info => "INFO"
  | debug => "DEBUG"
  | trace => "TRACE"

/-- The rank of a level, the most important first. -/
def rank : Level → Nat
  | error => 0
  | warn => 1
  | info => 2
  | debug => 3
  | trace => 4

end Level

/-- Something that happens in a run. -/
inductive Event where
  /-- A type was resolved. -/
  | resolved (ref name : String)
  /-- An import got a name that its package did not ask for. -/
  | renamed (item : Go.Import)
  /-- A file has no services. -/
  | noServices
  /-- The stubs of a service are written. -/
  | emitting (service : String) (methods : Nat)
  /-- The stubs of a service cannot be used outside their package. -/
  | hiddenService (service : String)
  /-- The stubs of a method cannot be used outside their package. -/
  | hiddenMethod (service method : String)
  /-- The plugin asked for is not there. -/
  | noPlugin (name : String) (available : List String)
  /-- There are services but no types. -/
  | noTypes
  /-- A run begins. -/
  | starting (plugin : String) (symbols : Nat)
  /-- A file failed. -/
  | failed (file : String) (error : GenerationError)
  /-- A run has ended well. -/
  | complete (generated files : Nat)
  /-- A descriptor set was read. -/
  | loaded (files types : Nat) (plugin : String)
  /-- A run had no services to generate stubs for. -/
  | nothing (descriptors : String)
  /-- A file was written. -/
  | wrote (path : String)
  /-- A check has ended well. -/
  | checked (files : Nat)
deriving Repr, DecidableEq, Inhabited

/-- The value of a field of an event. -/
inductive Value where
  /-- A text shown as it is. -/
  | bare (text : String)
  /-- A text shown in quotes. -/
  | quoted (text : String)
  /-- A number. -/
  | count (n : Nat)
  /-- A list of texts, each shown in quotes. -/
  | list (items : List String)
deriving Repr, DecidableEq, Inhabited

namespace Value

/-- A value by itself. -/
def plain : Value → String
  | bare text | quoted text => text
  | count n => toString n
  | list items => Text.quotedList items

/-- A value in a line of the log. -/
def shown : Value → String
  | quoted text => Text.quoted text
  | value => value.plain

end Value

/-- The file that a plugin is at work on. -/
structure Span where
  file : String
  services : Nat
deriving Repr, DecidableEq, Inhabited

namespace Span

/-- The name of the span of a file. -/
def name : String :=
  "generate"

/-- The level of the span of a file. -/
def level : Level :=
  .info

/-- The part of the program that opens the span of a file. -/
def source : String :=
  "rpcxgen::backend::rpcx"

/-- What a span records. -/
def fields (span : Span) : List (String × Value) :=
  [("file", .bare span.file), ("services", .count span.services)]

end Span

namespace Event

/-- The level of an event. -/
def level : Event → Level
  | noPlugin .. | failed .. => .error
  | hiddenService .. | hiddenMethod .. | noTypes | nothing .. => .warn
  | wrote .. | checked .. => .info
  | resolved .. => .trace
  | _ => .debug

/-- The part of the program an event comes from. -/
def source : Event → String
  | resolved .. | renamed .. => "rpcxgen::frontend::symbols"
  | noServices | emitting .. | hiddenService .. | hiddenMethod .. => Span.source
  | noPlugin .. | noTypes | starting .. | failed .. | complete .. => "rpcxgen::backend::generator"
  | loaded .. | nothing .. | wrote .. | checked .. => "rpcxgen::cli::commands"

/-- The words of an event. -/
def message : Event → String
  | resolved .. => "resolved type"
  | renamed .. => "package name taken, aliasing import"
  | noServices => "no services, skipping"
  | emitting .. => "emitting service"
  | hiddenService .. => "service name does not start with a letter, stubs will not be exported"
  | hiddenMethod .. => "method name does not start with a letter, stub methods will not be exported"
  | noPlugin .. => "plugin not registered"
  | noTypes => "descriptor set defines no types, every method will fail to resolve"
  | starting .. => "starting generation"
  | failed .. => "generation failed"
  | complete .. => "generation complete"
  | loaded .. => "loaded descriptor set"
  | nothing .. => "no services found, nothing generated"
  | wrote .. => "wrote stubs"
  | checked .. => "all method types resolved"

/-- What an event records beside its words. -/
def fields : Event → List (String × Value)
  | resolved ref name => [("type_ref", .quoted ref), ("name", .bare name)]
  | renamed item => [("path", .bare item.path), ("alias", .bare item.name)]
  | emitting service methods => [("service", .bare service), ("methods", .count methods)]
  | hiddenService service => [("service", .bare service)]
  | hiddenMethod service method => [("service", .bare service), ("method", .bare method)]
  | noPlugin name available => [("plugin", .bare name), ("available", .list available)]
  | starting plugin symbols => [("plugin", .quoted plugin), ("symbols", .count symbols)]
  | failed file error => [("file", .bare file), ("error", .bare error.message)]
  | complete generated files => [("generated", .count generated), ("files", .count files)]
  | loaded files types plugin =>
      [("files", .count files), ("types", .count types), ("plugin", .bare plugin)]
  | nothing descriptors => [("descriptors", .bare descriptors)]
  | wrote path => [("path", .bare path)]
  | checked files => [("files", .count files)]
  | noServices | noTypes => []

end Event

end RpcStubs.Log
