import RpcStubs.Go.Code
import RpcStubs.Go.Import
import RpcStubs.Sorted.Set

/-!
# Fragments

The stubs of one file are blocks of declarations in the order in which they are printed, with the
packages that the code always needs and the imports that its types need.
-/

namespace RpcStubs.Stub

/-- What kind of declarations a fragment holds. -/
inductive Role where
  /-- The comment that names the source file. -/
  | provenance
  | serverSkeleton
  | serverMethod
  | clientWrapper
  | clientMethod
  | oneClientWrapper
  | oneClientMethod
deriving Repr, DecidableEq, Inhabited

/-- The roles in the order in which a file with one method holds them. -/
def Role.all : List Role :=
  [.provenance, .serverSkeleton, .serverMethod, .clientWrapper, .clientMethod, .oneClientWrapper,
    .oneClientMethod]

/-- One block of declarations. -/
structure Fragment where
  role : Role
  text : String
deriving Repr, DecidableEq, Inhabited

/-- The fragment of some code. -/
def Fragment.ofCode (role : Role) (code : List Go.Code) : Fragment :=
  ⟨role, Go.Code.text code⟩

@[simp]
theorem Fragment.text_ofCode (role : Role) (code : List Go.Code) :
    (Fragment.ofCode role code).text = Go.Code.text code :=
  rfl

/-- Everything generated for one file. -/
structure FileStubs where
  fragments : List Fragment := []
  /-- Import paths of the packages that the code always needs. -/
  packages : List String := []
  /-- The imports that the printed types need. -/
  imports : SortedSet Go.Import := SortedMap.empty
deriving DecidableEq, Inhabited

/-- The fragments of one role, in order. -/
def FileStubs.fragmentsOf (stubs : FileStubs) (role : Role) : List Fragment :=
  stubs.fragments.filter fun fragment => fragment.role = role

/-- One thing that stubs tell the file they are written to. -/
inductive Instruction where
  /-- The file depends on a package. -/
  | declare (path : String)
  /-- The file refers to a package by a name. -/
  | declareNamed (item : Go.Import)
  /-- The file goes on with a fragment. -/
  | print (fragment : Fragment)
deriving Repr, DecidableEq, Inhabited

/-- Stubs as instructions: the packages, the imports in order, the fragments. -/
def FileStubs.instructions (stubs : FileStubs) : List Instruction :=
  stubs.packages.map .declare
    ++ (SortedSet.toList stubs.imports).map .declareNamed
    ++ stubs.fragments.map .print

end RpcStubs.Stub
