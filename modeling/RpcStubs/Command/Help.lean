import RpcStubs.Command.Request
import RpcStubs.Text.Table
import RpcStubs.Version

/-!
# Help

A page of help says what a command is for, how it is used, and what its arguments and options mean,
in two columns.
-/

namespace RpcStubs.Command

/-- Terms and what they mean, under a title. -/
structure Section where
  title : String
  rows : List (String × String)
deriving Repr, DecidableEq, Inhabited

/-- A page of help. -/
structure Page where
  purpose : String
  usage : String
  sections : List Section
deriving Repr, DecidableEq, Inhabited

/-- A section as it is printed. -/
def Section.text (part : Section) : String :=
  "\n" ++ part.title ++ ":\n"
    ++ String.join ((Text.twoColumns 2 part.rows).map fun row => "  " ++ row ++ "\n")

/-- A page as it is printed. -/
def Page.text (page : Page) : String :=
  page.purpose ++ "\n\nUsage: " ++ programName ++ " " ++ page.usage ++ "\n"
    ++ String.join (page.sections.map Section.text)

namespace Topic

/-- The command of a topic, as it is written. -/
def word : Topic → String
  | program => ""
  | verb .generate => "generate"
  | verb .check => "check"
  | help => "help"

/-- What a topic is for. -/
def purpose : Topic → String
  | program => "Generate rpcx server skeletons and client wrappers from compiled descriptors"
  | verb .generate => "Generate stubs for every compiled file with services"
  | verb .check => "Resolve every method type without writing output"
  | help => "Print this message or the help of the given subcommand(s)"

/-- How a topic is used, behind the name of the program. -/
def usage : Topic → String
  | program => "<COMMAND>"
  | help => "help [COMMAND]..."
  | topic => topic.word ++ " [OPTIONS] <DESCRIPTORS>"

/-- The section on the descriptor set. -/
def descriptorsSection : Section :=
  ⟨"Arguments", [("<DESCRIPTORS>", "JSON descriptor set produced by the schema compiler")]⟩

/-- The row of the option for help. -/
def helpRow : String × String :=
  ("-h, --help", "Print help")

/-- What is explained about a topic. -/
def sections : Topic → List Section
  | program =>
      [⟨"Commands",
          [verb .generate, verb .check, help].map fun topic => (topic.word, topic.purpose)⟩,
        ⟨"Options", [helpRow, ("-V, --version", "Print version")]⟩]
  | verb .generate =>
      [descriptorsSection,
        ⟨"Options",
          [("-o, --out-dir <DIR>", "Output directory (default: current directory)"),
            ("-p, --param <PARAMS>",
              "Generator options, e.g. `serialize=JSON,fail_mode=Failover`"),
            ("    --stdout", "Print generated files instead of writing them"),
            helpRow]⟩]
  | verb .check =>
      [descriptorsSection,
        ⟨"Options", [("-p, --param <PARAMS>", "Generator options"), helpRow]⟩]
  | help => [⟨"Arguments", [("[COMMAND]...", "Print help for the subcommand(s)")]⟩]

/-- The page of help on a topic. -/
def page (topic : Topic) : Page :=
  ⟨topic.purpose, topic.usage, topic.sections⟩

end Topic

end RpcStubs.Command
