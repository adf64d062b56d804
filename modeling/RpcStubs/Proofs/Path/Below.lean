import RpcStubs.Proofs.Disk.Walk
import RpcStubs.Proofs.Text.Cut

/-!
# Places below a directory

A path that stays below a directory leads down by its names alone. So two such paths lead to one
place below the directory exactly where they have the same names (`placeOf_eq_iff`), however their
slashes and `.` steps differ.
-/

namespace RpcStubs

namespace Path

/-- The name that a step leads down by. -/
def Component.name? : Component → Option String
  | name text => some text
  | root | current | parent => none

/-- The names that a path leads down by. -/
def names (path : String) : List String :=
  (steps path).filterMap Component.name?

/-- The steps of some pieces with other pieces behind them. -/
def leadingSteps : List (List Char) → List Component
  | [] :: rest => .root :: rest.map Component.ofPiece
  | pieces => pieces.map Component.ofPiece

/-- Steps begin at the root where a slash comes first. -/
theorem steps_of_pieces_cons {path : String} {first : List Char} {rest : List (List Char)}
    (split : Text.pieces '/' path.toList = first :: rest) :
    steps path =
      if first = [] ∧ rest ≠ [] then .root :: rest.map Component.ofPiece
      else (first :: rest).map Component.ofPiece := by
  rw [steps, split]
  cases first <;> cases rest <;> simp

/-- Whether a path starts at the root. -/
def IsAbsolute (path : String) : Prop :=
  path.toList.head? = some '/'

/-- A slash comes first where an empty piece is followed by others. -/
theorem isAbsolute_iff {path : String} {first : List Char} {rest : List (List Char)}
    (split : Text.pieces '/' path.toList = first :: rest) :
    IsAbsolute path ↔ first = [] ∧ rest ≠ [] := by
  rw [IsAbsolute]
  cases chars : path.toList with
  | nil =>
      rw [chars] at split
      rcases List.cons.inj split with ⟨rfl, rfl⟩
      simp
  | cons c cs =>
      rw [chars, Text.pieces] at split
      by_cases slash : c = '/'
      · rw [if_pos slash] at split
        rcases List.cons.inj split with ⟨rfl, rfl⟩
        simp [slash, Text.pieces_ne_nil]
      · rw [if_neg slash] at split
        have named : first ≠ [] := by
          split at split
          · rcases List.cons.inj split with ⟨rfl, _⟩
            exact List.cons_ne_nil _ _
          · rcases List.cons.inj split with ⟨rfl, _⟩
            exact List.cons_ne_nil _ _
        simp [slash, named]

/-- The steps of a path stand for its pieces, but an empty first piece that others follow stands for
the root. -/
theorem steps_cases (path : String) :
    (IsAbsolute path ∧ ∃ rest, Text.pieces '/' path.toList = [] :: rest
        ∧ steps path = .root :: rest.map Component.ofPiece)
      ∨ ¬IsAbsolute path
        ∧ steps path = (Text.pieces '/' path.toList).map Component.ofPiece := by
  cases split : Text.pieces '/' path.toList with
  | nil => exact absurd split (Text.pieces_ne_nil '/' _)
  | cons first rest =>
      rw [isAbsolute_iff split, steps_of_pieces_cons split]
      by_cases rooted : first = [] ∧ rest ≠ []
      · rw [if_pos rooted, rooted.1]
        exact .inl ⟨⟨rfl, rooted.2⟩, rest, rfl, rfl⟩
      · rw [if_neg rooted]
        exact .inr ⟨rooted, rfl⟩

/-- The steps of a path behind a slash follow the steps in front of the slash. -/
theorem steps_of_toList_eq {path back : String} {front : List Char}
    (split : path.toList = front ++ '/' :: back.toList) :
    steps path = leadingSteps (Text.pieces '/' front)
      ++ (Text.pieces '/' back.toList).map Component.ofPiece := by
  have pieces : Text.pieces '/' path.toList =
      Text.pieces '/' front ++ Text.pieces '/' back.toList := by
    rw [split, Text.pieces_append_cons]
  have behind := Text.pieces_ne_nil '/' back.toList
  cases leading : Text.pieces '/' front with
  | nil => exact absurd leading (Text.pieces_ne_nil '/' front)
  | cons first rest =>
      rw [leading, List.cons_append] at pieces
      rw [steps_of_pieces_cons pieces]
      cases first <;> simp [leadingSteps, behind]

theorem mem_components_iff {path : String} {step : Component} (leads : step ≠ .current) :
    step ∈ components path ↔ step ∈ steps path := by
  unfold components
  split <;> simp [leads]

variable {directory path target : String}

/-- A path below a directory takes no step to the root or up. -/
theorem staysBelow_of_below? (found : below? directory path = some target) :
    ∀ step ∈ steps path, step.staysBelow = true := by
  intro step member
  by_cases idle : step = .current
  · rw [idle]
    rfl
  · have counts := (mem_components_iff idle).mpr member
    by_cases below : (components path).all Component.staysBelow = true
    · exact List.all_eq_true.mp below step counts
    · rw [below?, if_neg below] at found
      cases found

theorem eq_join_of_below? (found : below? directory path = some target) :
    target = join directory path := by
  unfold below? at found
  split at found
  · exact (Option.some.inj found).symm
  · cases found

/-- A path below a directory does not begin with a slash. -/
theorem steps_eq_map_of_below? (found : below? directory path = some target) :
    steps path = (Text.pieces '/' path.toList).map Component.ofPiece := by
  rcases steps_cases path with ⟨_, rest, _, steps⟩ | ⟨_, steps⟩
  · have atRoot := staysBelow_of_below? found .root (steps ▸ List.mem_cons_self)
    cases atRoot
  · exact steps

/-- The steps of a path with something in it are those in front of an empty rest. -/
theorem steps_eq_leadingSteps (present : path ≠ "") :
    steps path = leadingSteps (Text.pieces '/' path.toList) := by
  cases split : Text.pieces '/' path.toList with
  | nil => exact absurd split (Text.pieces_ne_nil '/' _)
  | cons first rest =>
      rw [steps_of_pieces_cons split]
      cases first with
      | cons c cs => simp [leadingSteps]
      | nil =>
          have others : rest ≠ [] := by
            rintro rfl
            apply present
            apply String.toList_eq_nil_iff.mp
            rw [← Text.intercalate_pieces '/' path.toList, split]
            rfl
          simp [leadingSteps, others]

/-- Below one directory all paths are joined to the same steps, which lead where those of the
directory do. -/
theorem exists_steps_of_below? (directory : String) :
    ∃ front : List Component,
      front.filter (· != .current) = (steps directory).filter (· != .current)
        ∧ ∀ path target, below? directory path = some target →
          steps target = front ++ steps path := by
  rcases List.eq_nil_or_concat directory.toList with empty | ⟨cs, last, ended⟩
  · obtain rfl := String.toList_eq_nil_iff.mp empty
    refine ⟨[], rfl, ?_⟩
    intro path target found
    rw [eq_join_of_below? found]
    simp [join]
  · rw [List.concat_eq_append] at ended
    -- One slash stands between a directory and what is below it, be it its own or a new one.
    have slashed : ∃ cs, (∀ path, (join directory path).toList = cs ++ '/' :: path.toList)
        ∧ (leadingSteps (Text.pieces '/' cs)).filter (· != .current) =
          (steps directory).filter (· != .current) := by
      by_cases slash : last = '/'
      · have own : directory.toList = cs ++ '/' :: "".toList := by
          rw [ended, slash]
          rfl
        refine ⟨cs, fun path => ?_, ?_⟩
        · simp [join, ended, slash]
        · rw [steps_of_toList_eq own, List.filter_append]
          exact (List.append_nil _).symm
      · have present : directory ≠ "" := by
          rintro rfl
          simp at ended
        refine ⟨directory.toList, fun path => ?_, ?_⟩
        · simp [join, ended, slash]
        · rw [steps_eq_leadingSteps present]
    rcases slashed with ⟨cs, joined, leads⟩
    refine ⟨leadingSteps (Text.pieces '/' cs), leads, ?_⟩
    intro path target found
    rw [eq_join_of_below? found, steps_of_toList_eq (joined path), steps_eq_map_of_below? found]

end Path

namespace Disk

/-- Steps that stay below lead down by their names. -/
theorem foldl_follow_of_staysBelow {steps : List Path.Component}
    (below : ∀ step ∈ steps, step.staysBelow = true) (place : Node.Place) :
    steps.foldl follow place = place ++ steps.filterMap Path.Component.name? := by
  induction steps generalizing place with
  | nil => simp
  | cons step rest ih =>
      have stays := below step List.mem_cons_self
      rw [List.foldl_cons, ih fun other member => below other (List.mem_cons_of_mem step member)]
      cases step with
      | root => cases stays
      | parent => cases stays
      | current => rfl
      | name text => simp [follow, Path.Component.name?]

/-- Paths below a directory lead to one place exactly where they have the same names. -/
theorem placeOf_eq_iff {disk : Disk} {directory first second firstTarget secondTarget : String}
    (firstFound : Path.below? directory first = some firstTarget)
    (secondFound : Path.below? directory second = some secondTarget) :
    disk.placeOf firstTarget = disk.placeOf secondTarget ↔
      Path.names first = Path.names second := by
  rcases Path.exists_steps_of_below? directory with ⟨front, _, joined⟩
  rw [placeOf, placeOf, joined _ _ firstFound, joined _ _ secondFound, List.foldl_append,
    List.foldl_append, foldl_follow_of_staysBelow (Path.staysBelow_of_below? firstFound),
    foldl_follow_of_staysBelow (Path.staysBelow_of_below? secondFound), List.append_right_inj]
  rfl

end Disk

end RpcStubs
