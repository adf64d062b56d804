import RpcStubs.Disk.Node
import RpcStubs.Path.Parent

/-!
# Files and directories

A disk is a tree of directories and files, with the directory that relative paths begin in. Reading,
writing and making a directory walk along a path and fail for a reason that the system words.
-/

namespace RpcStubs

/-- Why the system refuses to do something with a path. -/
inductive Refusal where
  | missing
  | taken
  | notDirectory
  | isDirectory
  | nameTooLong
  /-- The path holds the character that ends a path for the system. -/
  | endsEarly
  /-- The file does not hold text. -/
  | notText
deriving Repr, DecidableEq, Inhabited

/-- A refusal in the words of the system. -/
def Refusal.message : Refusal → String
  | missing => "No such file or directory (os error 2)"
  | taken => "File exists (os error 17)"
  | notDirectory => "Not a directory (os error 20)"
  | isDirectory => "Is a directory (os error 21)"
  | nameTooLong => "File name too long (os error 36)"
  | endsEarly => "file name contained an unexpected NUL byte"
  | notText => "stream did not contain valid UTF-8"

/-- The directory that everything is in, and the place that relative paths begin in. -/
structure Disk where
  root : Node := .emptyDirectory
  here : Node.Place := []
deriving Inhabited

namespace Disk

/-- The longest name of a file, in bytes. -/
def longestName : Nat :=
  255

/-- The longest path, in bytes. -/
def longestPath : Nat :=
  4095

/-- The disk with a node at a place. -/
def put (disk : Disk) (place : Node.Place) (node : Node) : Disk :=
  { disk with root := disk.root.put node place }

/-! ## Walking -/

/-- Where a walk has come: what is there, if anything, and the names on the way, the last first, each
with the node in which it was looked up. -/
structure Spot where
  node? : Option Node
  back : List (String × Node) := []
deriving Inhabited

namespace Spot

/-- The place of a spot. -/
def place (spot : Spot) : Node.Place :=
  (spot.back.map Prod.fst).reverse

/-- Whether a directory is at a spot. -/
def isDirectory (spot : Spot) : Bool :=
  spot.node?.any Node.isDirectory

/-- The spot of a name in the directory at a spot. -/
def down (spot : Spot) (name : String) : Spot :=
  { node? := spot.node?.bind (·.child? name)
    back := (name, spot.node?.getD .emptyDirectory) :: spot.back }

/-- The spot of the directory that a spot is in. The root is in itself. -/
def up (spot : Spot) : Spot :=
  match spot.back with
  | [] => spot
  | (_, node) :: back => { node? := some node, back }

@[simp]
theorem place_down (spot : Spot) (name : String) :
    (spot.down name).place = spot.place ++ [name] := by
  simp [place, down]

end Spot

/-- The spot of the root. -/
def top (disk : Disk) : Spot :=
  { node? := some disk.root }

/-- The spot that relative paths begin at. -/
def start (disk : Disk) : Spot :=
  disk.here.foldl Spot.down disk.top

/-- Where a step leads, whether or not anything is there. -/
def look (disk : Disk) (spot : Spot) (step : Path.Component) : Except Refusal Spot :=
  if !spot.isDirectory then .error .notDirectory
  else
    match step with
    | .root => .ok disk.top
    | .current => .ok spot
    | .parent => .ok spot.up
    | .name text =>
        if longestName < text.utf8ByteSize then .error .nameTooLong else .ok (spot.down text)

/-- Where a step leads, if something is there. -/
def enter (disk : Disk) (spot : Spot) (step : Path.Component) : Except Refusal Spot := do
  let next ← disk.look spot step
  if next.node?.isSome then return next else throw .missing

/-- Why no walk can begin with a path. -/
def refusal? (path : String) : Option Refusal :=
  if '\x00' ∈ path.toList then some .endsEarly
  else if path = "" then some .missing
  else if longestPath < path.utf8ByteSize then some .nameTooLong
  else none

/-- The spot a path leads to. Everything on the way must be there, but not what the path leads
to. -/
def locate (disk : Disk) (path : String) : Except Refusal Spot :=
  match refusal? path with
  | some refusal => .error refusal
  | none => do
      let steps := Path.steps path
      let above ← steps.dropLast.foldlM disk.enter disk.start
      disk.look above (steps.getLast?.getD .current)

/-! ## Files -/

/-- The text of the file that a path leads to. -/
def read (disk : Disk) (path : String) : Except Refusal String := do
  match (← disk.locate path).node? with
  | none => throw .missing
  | some (.directory _) => throw .isDirectory
  | some (.file .binary) => throw .notText
  | some (.file (.text text)) => return text

/-- The disk after a file is written over what it held, or anew. -/
def write (disk : Disk) (path : String) (content : Content) : Except Refusal Disk := do
  let spot ← disk.locate path
  if spot.isDirectory then throw .isDirectory
  return disk.put spot.place (.file content)

end Disk

end RpcStubs
