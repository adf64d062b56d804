import RpcStubs.Disk.Directory
import RpcStubs.Proofs.Fallible
import RpcStubs.Proofs.Sorted.Lookup

/-!
# Walks along a path

A disk has no links, so the place that a path leads to can be read off the path (`placeOf`). Whether
a walk gets there depends only on what kinds of things are on the way: a path is located exactly
where every step but the last leads from a directory to something that is there
(`locate_eq_ok_iff`).
-/

namespace RpcStubs

/-- What something is below is a directory. -/
theorem Node.kindAt?_of_append {node : Node} {place rest : Place} (further : rest ≠ [])
    (there : (node.kindAt? (place ++ rest)).isSome = true) : node.kindAt? place = some none := by
  induction place generalizing node with
  | nil =>
      cases rest with
      | nil => exact absurd rfl further
      | cons name rest =>
          rw [List.nil_append, kindAt?_cons] at there
          rcases Option.isSome_iff_exists.mp there with ⟨kind, found⟩
          rcases Option.bind_eq_some_iff.mp found with ⟨entry, child, _⟩
          rw [kindAt?_nil, isDirectory_iff_content?.mp (isDirectory_of_child? child)]
  | cons name place ih =>
      rw [List.cons_append, kindAt?_cons] at there
      rw [kindAt?_cons]
      cases child : node.child? name with
      | none => simp [child] at there
      | some entry => exact ih (by simpa [child] using there)

theorem Node.mem_filesOfEntries {entries : List (String × Node)} {name : String} {entry : Node}
    {place : Place} {content : Content} (member : (name, entry) ∈ entries)
    (inside : (place, content) ∈ entry.files) :
    (name :: place, content) ∈ filesOfEntries entries := by
  induction entries with
  | nil => cases member
  | cons first rest ih =>
      rw [filesOfEntries.eq_def]
      apply List.mem_append.mpr
      rcases List.mem_cons.mp member with rfl | later
      · left
        exact List.mem_map.mpr ⟨_, inside, rfl⟩
      · right
        exact ih later

/-- What a place holds is among the files of the tree. -/
theorem Node.mem_files_of_kindAt? {node : Node} {place : Place} {content : Content}
    (found : node.kindAt? place = some (some content)) : (place, content) ∈ node.files := by
  induction place generalizing node with
  | nil =>
      cases node with
      | file held =>
          obtain rfl := Option.some.inj (Option.some.inj found)
          simp [files]
      | directory entries => cases found
  | cons name rest ih =>
      rw [kindAt?_cons] at found
      rcases Option.bind_eq_some_iff.mp found with ⟨entry, child, inside⟩
      cases node with
      | file held => cases child
      | directory entries =>
          rw [files]
          exact mem_filesOfEntries (SortedMap.mem_of_valueAt?_eq_some child) (ih inside)

namespace Disk

variable {disk : Disk} {place : Node.Place}

/-- What is at a place of a disk. -/
def kindAt? (disk : Disk) (place : Node.Place) : Option (Option Content) :=
  disk.root.kindAt? place

/-- The place that a step leads to. -/
def follow (place : Node.Place) : Path.Component → Node.Place
  | .root => []
  | .current => place
  | .parent => place.dropLast
  | .name text => place ++ [text]

/-- The place that a path leads to. -/
def placeOf (disk : Disk) (path : String) : Node.Place :=
  (Path.steps path).foldl follow disk.here

/-! ## Spots of places -/

/-- The spot that walking down to a place ends at. -/
def spotAt (disk : Disk) (place : Node.Place) : Spot :=
  place.foldl Spot.down disk.top

@[simp]
theorem spotAt_nil (disk : Disk) : disk.spotAt [] = disk.top :=
  rfl

theorem spotAt_append_singleton (disk : Disk) (place : Node.Place) (name : String) :
    disk.spotAt (place ++ [name]) = (disk.spotAt place).down name := by
  rw [spotAt, List.foldl_append]
  rfl

theorem place_foldl_down (spot : Spot) (place : Node.Place) :
    (place.foldl Spot.down spot).place = spot.place ++ place := by
  induction place generalizing spot with
  | nil => simp
  | cons name rest ih => rw [List.foldl_cons, ih, Spot.place_down, List.append_assoc]; rfl

@[simp]
theorem place_spotAt (disk : Disk) (place : Node.Place) : (disk.spotAt place).place = place :=
  place_foldl_down disk.top place

theorem node?_foldl_down (spot : Spot) (place : Node.Place) :
    (place.foldl Spot.down spot).node? = spot.node?.bind (·.find? place) := by
  induction place generalizing spot with
  | nil => simp [Node.find?]
  | cons name rest ih =>
      rw [List.foldl_cons, ih, Spot.down, Option.bind_assoc]
      rfl

theorem map_content?_node?_spotAt (disk : Disk) (place : Node.Place) :
    (disk.spotAt place).node?.map Node.content? = disk.kindAt? place := by
  rw [spotAt, node?_foldl_down]
  rfl

theorem isSome_node?_spotAt (disk : Disk) (place : Node.Place) :
    (disk.spotAt place).node?.isSome = (disk.kindAt? place).isSome := by
  rw [← map_content?_node?_spotAt, Option.isSome_map]

theorem isDirectory_spotAt :
    (disk.spotAt place).isDirectory = true ↔ disk.kindAt? place = some none := by
  rw [← map_content?_node?_spotAt, Spot.isDirectory]
  cases (disk.spotAt place).node? with
  | none => simp
  | some node => simp [Node.isDirectory_iff_content?]

/-- Going up undoes going down from where something is. -/
theorem Spot.up_down {spot : Spot} (there : spot.node?.isSome = true) (name : String) :
    (spot.down name).up = spot := by
  rcases Option.isSome_iff_exists.mp there with ⟨node, found⟩
  cases spot with
  | mk node? back =>
      obtain rfl : node? = some node := found
      rfl

theorem up_spotAt (holds : disk.kindAt? place = some none) :
    (disk.spotAt place).up = disk.spotAt place.dropLast := by
  rcases List.eq_nil_or_concat place with rfl | ⟨above, name, rfl⟩
  · rfl
  · rw [List.concat_eq_append] at holds ⊢
    have there : (disk.kindAt? (above ++ [name])).isSome = true := by rw [holds]; rfl
    rw [spotAt_append_singleton, List.dropLast_concat, Spot.up_down]
    rw [isSome_node?_spotAt, kindAt?, Node.kindAt?_of_append (List.cons_ne_nil name []) there]
    rfl

/-! ## Walking -/

/-- Whether a step is one that the system would take: its name is not too long. -/
def fits : Path.Component → Bool
  | .name text => text.utf8ByteSize ≤ longestName
  | .root | .current | .parent => true

/-- A step can be tried at a place: a directory is there, and a name is not too long. -/
def Opens (disk : Disk) (place : Node.Place) (step : Path.Component) : Prop :=
  disk.kindAt? place = some none ∧ fits step = true

/-- Steps that each lead from a directory to something that is there. -/
def Walks (disk : Disk) (place : Node.Place) : List Path.Component → Prop
  | [] => True
  | step :: rest =>
      disk.Opens place step ∧ (disk.kindAt? (follow place step)).isSome = true
        ∧ disk.Walks (follow place step) rest

/-- A path that leads to a place in a directory that is there. -/
def Reaches (disk : Disk) (path : String) : Prop :=
  refusal? path = none
    ∧ disk.Walks disk.here (Path.steps path).dropLast
    ∧ disk.Opens ((Path.steps path).dropLast.foldl follow disk.here)
      ((Path.steps path).getLast?.getD .current)

theorem look_spotAt (holds : disk.kindAt? place = some none) (step : Path.Component) :
    disk.look (disk.spotAt place) step =
      if fits step = true then .ok (disk.spotAt (follow place step)) else .error .nameTooLong := by
  have isDirectory := isDirectory_spotAt.mpr holds
  cases step with
  | root => simp [look, isDirectory, fits, follow]
  | current => simp [look, isDirectory, fits, follow]
  | parent => simp [look, isDirectory, fits, follow, up_spotAt holds]
  | name text =>
      by_cases long : longestName < text.utf8ByteSize
      · simp [look, isDirectory, fits, long]
      · simp [look, isDirectory, fits, long, Nat.le_of_not_lt long, follow,
          spotAt_append_singleton]

theorem look_spotAt_eq_ok_iff {step : Path.Component} {spot : Spot} :
    disk.look (disk.spotAt place) step = .ok spot ↔
      disk.Opens place step ∧ spot = disk.spotAt (follow place step) := by
  by_cases holds : disk.kindAt? place = some none
  · rw [look_spotAt holds, Opens]
    by_cases short : fits step = true
    · rw [if_pos short]
      constructor
      · intro looked
        exact ⟨⟨holds, short⟩, (Except.ok.inj looked).symm⟩
      · rintro ⟨_, rfl⟩
        rfl
    · rw [if_neg short]
      constructor
      · nofun
      · rintro ⟨⟨_, fitting⟩, _⟩
        exact absurd fitting short
  · have noDirectory : (disk.spotAt place).isDirectory = false :=
      Bool.eq_false_iff.mpr (mt isDirectory_spotAt.mp holds)
    constructor
    · intro looked
      rw [look.eq_def, noDirectory] at looked
      cases looked
    · rintro ⟨⟨held, _⟩, _⟩
      exact absurd held holds

theorem enter_spotAt_eq_ok_iff {step : Path.Component} {spot : Spot} :
    disk.enter (disk.spotAt place) step = .ok spot ↔
      disk.Opens place step ∧ (disk.kindAt? (follow place step)).isSome = true
        ∧ spot = disk.spotAt (follow place step) := by
  rw [enter, bind_eq_ok_iff]
  constructor
  · rintro ⟨next, looked, found⟩
    rcases look_spotAt_eq_ok_iff.mp looked with ⟨opens, rfl⟩
    split at found
    next there =>
      rw [isSome_node?_spotAt] at there
      exact ⟨opens, there, (Except.ok.inj found).symm⟩
    next => cases found
  · rintro ⟨opens, there, rfl⟩
    refine ⟨_, look_spotAt_eq_ok_iff.mpr ⟨opens, rfl⟩, ?_⟩
    rw [isSome_node?_spotAt, if_pos there]
    rfl

theorem foldlM_enter_spotAt_eq_ok_iff {steps : List Path.Component} {spot : Spot} :
    steps.foldlM disk.enter (disk.spotAt place) = .ok spot ↔
      disk.Walks place steps ∧ spot = disk.spotAt (steps.foldl follow place) := by
  induction steps generalizing place with
  | nil => simp [Walks, pure, Except.pure, eq_comm]
  | cons step rest ih =>
      rw [List.foldlM_cons, bind_eq_ok_iff, List.foldl_cons, Walks]
      constructor
      · rintro ⟨next, entered, walked⟩
        rcases enter_spotAt_eq_ok_iff.mp entered with ⟨opens, there, rfl⟩
        rcases ih.mp walked with ⟨walks, rfl⟩
        exact ⟨⟨opens, there, walks⟩, rfl⟩
      · rintro ⟨⟨opens, there, walks⟩, rfl⟩
        exact ⟨_, enter_spotAt_eq_ok_iff.mpr ⟨opens, there, rfl⟩, ih.mpr ⟨walks, rfl⟩⟩

/-- The place of a path is where its last step leads from the place of the others. -/
theorem placeOf_eq_follow (disk : Disk) (path : String) :
    disk.placeOf path =
      follow ((Path.steps path).dropLast.foldl follow disk.here)
        ((Path.steps path).getLast?.getD .current) := by
  rw [placeOf]
  rcases List.eq_nil_or_concat (Path.steps path) with empty | ⟨front, last, split⟩
  · rw [empty]
    rfl
  · rw [split, List.concat_eq_append, List.dropLast_concat, List.foldl_append]
    simp

/-- A path is located where it leads to a place in a directory that is there, and nowhere else. -/
theorem locate_eq_ok_iff {path : String} {spot : Spot} :
    disk.locate path = .ok spot ↔ disk.Reaches path ∧ spot = disk.spotAt (disk.placeOf path) := by
  rw [locate, Reaches, placeOf_eq_follow]
  cases refusal? path with
  | some refusal => simp
  | none =>
      simp only [bind_eq_ok_iff, true_and]
      constructor
      · rintro ⟨above, walked, looked⟩
        rcases foldlM_enter_spotAt_eq_ok_iff.mp walked with ⟨walks, rfl⟩
        rcases look_spotAt_eq_ok_iff.mp looked with ⟨opens, rfl⟩
        exact ⟨⟨walks, opens⟩, rfl⟩
      · rintro ⟨⟨walks, opens⟩, rfl⟩
        exact ⟨_, foldlM_enter_spotAt_eq_ok_iff.mpr ⟨walks, rfl⟩,
          look_spotAt_eq_ok_iff.mpr ⟨opens, rfl⟩⟩

end Disk

end RpcStubs
