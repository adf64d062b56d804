import RpcStubs.Go.Import
import RpcStubs.Sorted.Map
import RpcStubs.Version

/-!
# Generated Go files

A file under construction collects imports, each path once, and blocks of code. Declaring a path
plainly never takes away the name that another declaration gave it; declaring it with a name
replaces what was there.
-/

namespace RpcStubs.Go

/-- A Go file under construction. -/
structure File where
  package : String
  /-- For each imported path the name written in front of it, if any. -/
  imports : SortedMap String (Option String) := SortedMap.empty
  /-- The blocks of code, in order. -/
  body : List String := []
deriving DecidableEq, Inhabited

namespace File

/-- The file with a path imported under its own name, unless it is imported already. -/
def declare (file : File) (path : String) : File :=
  { file with imports := file.imports.insertIfNew path none }

/-- The file with a path imported under a name. -/
def declareNamed (file : File) (item : Import) : File :=
  { file with imports := file.imports.insert item.path item.alias? }

/-- The file with one more block of code. -/
def print (file : File) (block : String) : File :=
  { file with body := file.body ++ [block] }

/-! ## Rendering -/

/-- A line of the import block: the path in quotes, a name in front of it if one is written. -/
def importLine (path : String) (written : Option String) : String :=
  "\t" ++ (match written with | some name => name ++ " " | none => "") ++ "\"" ++ path ++ "\"\n"

/-- The imports in groups: the standard library first, then all others, no group empty. -/
def importGroups (file : File) : List (List (String × Option String)) :=
  [file.imports.entries.filter fun entry => isStandardPath entry.1,
    file.imports.entries.filter fun entry => !isStandardPath entry.1].filter
      fun group => !group.isEmpty

/-- The import block with the blank line before it, nothing if the file imports nothing. -/
def importBlock (file : File) : String :=
  if file.imports.isEmpty then ""
  else
    "\nimport (\n"
      ++ "\n".intercalate (file.importGroups.map fun group =>
        "".intercalate (group.map fun entry => importLine entry.1 entry.2))
      ++ ")\n"

/-- The first lines of every generated file. -/
def header (package : String) : String :=
  "// Code generated by " ++ programName ++ " v" ++ version ++ ". DO NOT EDIT.\n\npackage "
    ++ package ++ "\n"

/-- The text of a file: header, imports, and the blocks with a blank line before each. -/
def render (file : File) : String :=
  header file.package ++ file.importBlock ++ "".intercalate (file.body.map ("\n" ++ ·))

end File

end RpcStubs.Go
