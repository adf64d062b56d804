import RpcStubs.Proofs.Path.Below

/-!
# Joined paths

Going below a directory is allowed for the paths that neither begin with a slash nor have a step up
(`isSome_below?_iff`). Then nothing that the directory leads to is taken back: apart from steps that
stay where one is, the steps of the joined path are those of the directory and behind them the names
of the path (`moves_of_below?`).
-/

namespace RpcStubs.Path

/-- The steps of a path that lead elsewhere. -/
def moves (path : String) : List Component :=
  (components path).filter (· != .current)

theorem moves_eq_filter_steps (path : String) :
    moves path = (steps path).filter (· != .current) := by
  unfold moves components
  split <;> simp

/-- The names among the components of a path are those that it leads down by. -/
theorem filterMap_name?_components (path : String) :
    (components path).filterMap Component.name? = names path := by
  have dropped : ((steps path).filter (· != .current)).filterMap Component.name? = names path := by
    rw [names, List.filterMap_filter]
    congr
    funext step
    cases step <;> rfl
  unfold components
  split
  · exact dropped
  · exact dropped

/-! ## Steps that leave -/

theorem Component.ofPiece_ne_root (piece : List Char) : ofPiece piece ≠ root := by
  unfold ofPiece
  split <;> nofun

theorem Component.ofPiece_eq_parent_iff {piece : List Char} :
    ofPiece piece = parent ↔ piece = ['.', '.'] := by
  constructor
  · intro same
    unfold ofPiece at same
    split at same
    next => contradiction
    next => contradiction
    next => rfl
    next => contradiction
  · rintro rfl
    rfl

theorem root_not_mem_map_ofPiece (pieces : List (List Char)) :
    .root ∉ pieces.map Component.ofPiece := by
  intro member
  rcases List.mem_map.mp member with ⟨piece, _, same⟩
  exact Component.ofPiece_ne_root piece same

theorem parent_mem_map_ofPiece_iff {pieces : List (List Char)} :
    .parent ∈ pieces.map Component.ofPiece ↔ ['.', '.'] ∈ pieces := by
  simp only [List.mem_map, Component.ofPiece_eq_parent_iff, exists_eq_right]

/-- A path has a step to the root where a slash comes first. -/
theorem root_mem_components_iff {path : String} :
    .root ∈ components path ↔ IsAbsolute path := by
  rw [mem_components_iff (by nofun)]
  rcases steps_cases path with ⟨absolute, rest, _, steps⟩ | ⟨relative, steps⟩
  · simp [absolute, steps]
  · simp only [steps, relative, root_not_mem_map_ofPiece]

/-- A path has a step up where two dots stand alone between slashes. -/
theorem parent_mem_components_iff {path : String} :
    .parent ∈ components path ↔ ['.', '.'] ∈ Text.pieces '/' path.toList := by
  rw [mem_components_iff (by nofun)]
  rcases steps_cases path with ⟨_, rest, pieces, steps⟩ | ⟨_, steps⟩
  · rw [steps, pieces]
    simp only [List.mem_cons, reduceCtorEq, false_or, parent_mem_map_ofPiece_iff]
  · rw [steps, parent_mem_map_ofPiece_iff]

/-! ## Going below a directory -/

/-- A path is allowed below a directory if it does not begin with a slash and no piece of it is a
step up. -/
theorem isSome_below?_iff {directory path : String} :
    (below? directory path).isSome = true ↔
      ¬IsAbsolute path ∧ ['.', '.'] ∉ Text.pieces '/' path.toList := by
  rw [below?_isSome_iff, ← root_mem_components_iff, ← parent_mem_components_iff]
  constructor
  · intro stays
    exact ⟨fun root => (stays _ root).1 rfl, fun parent => (stays _ parent).2 rfl⟩
  · rintro ⟨noRoot, noParent⟩ step member
    exact ⟨fun root => noRoot (root ▸ member), fun parent => noParent (parent ▸ member)⟩

/-- Steps that stay below lead elsewhere by their names. -/
theorem filter_eq_map_name {steps : List Component}
    (below : ∀ step ∈ steps, step.staysBelow = true) :
    steps.filter (· != .current) = (steps.filterMap Component.name?).map .name := by
  induction steps with
  | nil => rfl
  | cons step rest ih =>
      have behind := ih fun other member => below other (List.mem_cons_of_mem step member)
      cases step with
      | root => cases below .root List.mem_cons_self
      | parent => cases below .parent List.mem_cons_self
      | current => exact behind
      | name text => exact congrArg (.name text :: ·) behind

/-- A path that stays below a directory is joined to it without taking anything back: behind the
steps of the directory come the names of the path. -/
theorem moves_of_below? {directory path target : String}
    (found : below? directory path = some target) :
    moves target = moves directory ++ ((components path).filterMap Component.name?).map .name := by
  rcases exists_steps_of_below? directory with ⟨front, leads, joined⟩
  rw [moves_eq_filter_steps, moves_eq_filter_steps, joined path target found, List.filter_append,
    leads, filter_eq_map_name (staysBelow_of_below? found), filterMap_name?_components]
  rfl

example : (below? "out/" "./a//..b").map moves = some [.name "out", .name "a", .name "..b"] := by
  decide

/-! ## Paths that end in a name -/

theorem Component.ofPiece_eq_name {piece : List Char} (long : 2 < piece.length) :
    ofPiece piece = name (String.ofList piece) := by
  unfold ofPiece
  split
  next => contradiction
  next => contradiction
  next => contradiction
  next => rfl

/-- A text without slashes that is longer than two dots is part of a name at the end of a path. -/
theorem names_append_ne_nil (front : String) {back : String} (absent : '/' ∉ back.toList)
    (long : 2 < back.length) : names (front ++ back) ≠ [] := by
  rcases Text.exists_mem_pieces_append absent front.toList with ⟨opening, member⟩
  rw [← String.toList_append] at member
  have longPiece : 2 < (opening ++ back.toList).length := by
    rw [List.length_append, String.length_toList]
    omega
  have isName := Component.ofPiece_eq_name longPiece
  have step : .name (String.ofList (opening ++ back.toList)) ∈ steps (front ++ back) := by
    rw [← isName]
    rcases steps_cases (front ++ back) with ⟨_, rest, pieces, steps⟩ | ⟨_, steps⟩
    · rw [pieces] at member
      rw [steps]
      rcases List.mem_cons.mp member with nothing | behind
      · rw [nothing] at longPiece
        contradiction
      · exact List.mem_cons_of_mem _ (List.mem_map_of_mem behind)
    · rw [steps]
      exact List.mem_map_of_mem member
  exact List.ne_nil_of_mem (List.mem_filterMap.mpr ⟨_, step, rfl⟩)

end RpcStubs.Path
