import RpcStubs.Path.Basic

/-!
# The directory above

The directory that holds what a path leads to is the path without its last step. It is a shorter
text (`length_parent?_lt`), so going up ends, and the directories above a path are a list.
-/

namespace RpcStubs.Path

/-- The characters of a path, last one first, without slashes and `.` steps at the end. The slash of
the root and a single `.` remain. -/
def dropIdleSteps : List Char → List Char
  | ['/'] => ['/']
  | '/' :: before => dropIdleSteps before
  | '.' :: '/' :: before => dropIdleSteps ('/' :: before)
  | cs => cs

/-- The characters of a path, last one first, without its last step. -/
def dropLastStep (cs : List Char) : List Char :=
  dropIdleSteps (cs.dropWhile (· != '/'))

/-- The directory above, by its characters: the root and the empty path have none. -/
def parentChars? (cs : List Char) : Option (List Char) :=
  match dropIdleSteps cs.reverse with
  | [] => none
  | ['/'] => none
  | last => some (dropLastStep last).reverse

/-- The directory above a path. -/
def parent? (path : String) : Option String :=
  (parentChars? path.toList).map String.ofList

theorem length_dropIdleSteps_le (cs : List Char) : (dropIdleSteps cs).length ≤ cs.length := by
  fun_induction dropIdleSteps cs with
  | case1 => exact Nat.le_refl _
  | case2 before notRoot ih => exact Nat.le_succ_of_le ih
  | case3 before ih => exact Nat.le_succ_of_le ih
  | case4 => exact Nat.le_refl _

/-- Idle steps that remain at the front are the root. -/
theorem eq_root_of_dropIdleSteps_eq_cons {cs rest : List Char}
    (idle : dropIdleSteps cs = '/' :: rest) : rest = [] := by
  fun_induction dropIdleSteps cs with
  | case1 => simpa using idle.symm
  | case2 before _ ih => exact ih idle
  | case3 before ih => exact ih idle
  | case4 cs notRoot notSlash _ => exact absurd idle (notSlash rest)

theorem length_parentChars?_lt {cs above : List Char} (found : parentChars? cs = some above) :
    above.length < cs.length := by
  have shorter := length_dropIdleSteps_le cs.reverse
  unfold parentChars? at found
  generalize idle : dropIdleSteps cs.reverse = last at found shorter
  split at found
  · simp at found
  · simp at found
  next notEmpty notRoot =>
    obtain rfl := Option.some.inj found
    cases last with
    | nil => exact absurd rfl notEmpty
    | cons c rest =>
        have notSlash : c ≠ '/' := by
          rintro rfl
          exact notRoot (by rw [eq_root_of_dropIdleSteps_eq_cons idle])
        have dropped := length_dropIdleSteps_le (rest.dropWhile (· != '/'))
        have suffix := (List.dropWhile_sublist (· != '/') (l := rest)).length_le
        simp only [dropLastStep, List.dropWhile_cons, bne_iff_ne, notSlash, ne_eq,
          not_false_eq_true, if_true, List.length_reverse, List.length_cons] at *
        omega

/-- The path above is a shorter text. -/
theorem length_parent?_lt {path above : String} (found : parent? path = some above) :
    above.length < path.length := by
  obtain ⟨chars, above, rfl⟩ := Option.map_eq_some_iff.mp found
  rw [String.length_ofList, ← String.length_toList]
  exact length_parentChars?_lt above

/-- A path and the directories above it, as far as they have a name of their own: neither the root
nor the directory one is in. -/
def upward (path : String) : List String :=
  match _found : parent? path with
  | none => []
  | some above => path :: upward above
termination_by path.length
decreasing_by exact length_parent?_lt _found

theorem upward_of_parent?_eq_none {path : String} (none : parent? path = none) :
    upward path = [] := by
  rw [upward]
  split
  · rfl
  next above found => cases none.symm.trans found

theorem upward_of_parent?_eq_some {path above : String} (found : parent? path = some above) :
    upward path = path :: upward above := by
  rw [upward]
  split
  next none => cases found.symm.trans none
  next other there => rw [Option.some.inj (found.symm.trans there)]

end RpcStubs.Path
