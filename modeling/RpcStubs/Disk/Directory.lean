import RpcStubs.Disk.Basic

/-!
# Making directories

A directory can be made where nothing is. Making all directories of a path goes up as far as they
are missing; one that is there already is no fault, but a file in its place is.
-/

namespace RpcStubs.Disk

/-- The disk with a new directory. -/
def makeDirectory (disk : Disk) (path : String) : Except Refusal Disk := do
  let spot ← disk.locate path
  if spot.node?.isSome then throw .taken
  return disk.put spot.place .emptyDirectory

/-- Whether a path leads to a directory. -/
def holdsDirectory (disk : Disk) (path : String) : Bool :=
  match disk.locate path with
  | .ok spot => spot.isDirectory
  | .error _ => false

/-- The disk with a directory that may have been there before. -/
def ensureDirectory (disk : Disk) (path : String) : Except Refusal Disk :=
  match disk.makeDirectory path with
  | .error .taken => if disk.holdsDirectory path then .ok disk else .error .taken
  | outcome => outcome

/-- The disk with the first of some directories, each in the one behind it. -/
def ensureChain (disk : Disk) : List String → Except Refusal Disk
  | [] => .ok disk
  | path :: above =>
      match disk.ensureDirectory path with
      | .error .missing => do (← disk.ensureChain above).ensureDirectory path
      | outcome => outcome

/-- The disk with a directory and all those above it. -/
def makeDirectories (disk : Disk) (path : String) : Except Refusal Disk :=
  disk.ensureChain (Path.upward path)

/-! ## Whole disks -/

/-- A disk with an empty directory to be in. -/
def fresh : Disk :=
  { root := .directory [("work", .emptyDirectory)], here := ["work"] }

/-- The disk with one more file and the directories it needs, if that can be. -/
def withFile (disk : Disk) (path : String) (content : Content) : Disk :=
  let added := do
    let disk ← disk.makeDirectories ((Path.parent? path).getD "")
    disk.write path content
  added.toOption.getD disk

/-- A disk with some files in the directory one is in. -/
def ofFiles (files : List (String × Content)) : Disk :=
  files.foldl (fun disk file => disk.withFile file.1 file.2) fresh

/-- The texts of the files below the directory one is in that are not as they were before, each with
the path that leads to it. -/
def changes (before after : Disk) : List (String × String) :=
  let files := (after.start.node?.map Node.files).getD []
  files.filterMap fun (place, content) =>
    match content with
    | .text text =>
        if before.root.contentAt? (after.here ++ place) = some content then none
        else some ("/".intercalate place, text)
    | .binary => none

end RpcStubs.Disk
