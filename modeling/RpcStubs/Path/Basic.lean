import RpcStubs.Text.Cut

/-!
# Paths

A path is a text whose steps stand between slashes. Doubled slashes and inner `.` steps do not
count, so two texts may be the same path. Main statement: going below a directory is allowed exactly
for paths that never leave it (`below?_isSome_iff`).
-/

namespace RpcStubs.Path

/-- A step of a path. -/
inductive Component where
  /-- To the root, which only the first step can be. -/
  | root
  /-- To where one is. -/
  | current
  /-- To the directory above. -/
  | parent
  /-- To the entry of a name. -/
  | name (text : String)
deriving Repr, DecidableEq, Inhabited

/-- The step that a piece between slashes stands for. -/
def Component.ofPiece : List Char → Component
  | [] => current
  | ['.'] => current
  | ['.', '.'] => parent
  | cs => name (String.ofList cs)

/-- The steps that one takes along a path, also those that stay where one is. -/
def steps (path : String) : List Component :=
  match Text.pieces '/' path.toList with
  | [] :: next :: rest => .root :: (next :: rest).map Component.ofPiece
  | pieces => pieces.map Component.ofPiece

/-- The steps of a path that count: those that lead elsewhere, and a `.` at the front. -/
def components (path : String) : List Component :=
  let moves := (steps path).filter (· != .current)
  if Text.beforeFirst '/' path.toList = ['.'] then .current :: moves else moves

/-- A path with a relative one behind it. -/
def join (directory path : String) : String :=
  if directory.toList.getLast?.all (· == '/') then directory ++ path
  else directory ++ "/" ++ path

/-- Whether a step neither starts over nor goes up. -/
def Component.staysBelow : Component → Bool
  | current | name _ => true
  | root | parent => false

/-- A path below a directory, unless the path leads out of it. -/
def below? (directory path : String) : Option String :=
  if (components path).all Component.staysBelow then some (join directory path) else none

theorem below?_isSome_iff {directory path : String} :
    (below? directory path).isSome = true ↔
      ∀ component ∈ components path, component ≠ .root ∧ component ≠ .parent := by
  have stays (component : Component) :
      component.staysBelow = true ↔ component ≠ .root ∧ component ≠ .parent := by
    cases component <;> simp [Component.staysBelow]
  simp [below?, stays]

end RpcStubs.Path
