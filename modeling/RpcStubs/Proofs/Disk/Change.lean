import RpcStubs.Proofs.Disk.Walk

/-!
# What changes on a disk

Making directories adds directories where nothing was (`addsDirectories_of_makeDirectories`), and
writing changes what is at one place (`wrote_of_write`). Neither takes a directory away, so a path
that was found before is found afterwards, and a text is read as it was written until something is
written to the same place.
-/

namespace RpcStubs.Disk

variable {disk later : Disk} {path : String}

/-! ## Putting nodes where paths lead -/

/-- A directory is in directories all the way. -/
theorem kindAt?_of_append {place rest : Node.Place}
    (holds : disk.kindAt? (place ++ rest) = some none) : disk.kindAt? place = some none := by
  cases rest with
  | nil => rwa [List.append_nil] at holds
  | cons name rest =>
      apply Node.kindAt?_of_append (List.cons_ne_nil name rest)
      rw [← kindAt?, holds]
      rfl

/-- From a directory only a name leads to something else than a directory. -/
theorem exists_name_of_follow {place : Node.Place} {step : Path.Component}
    (holds : disk.kindAt? place = some none)
    (apart : disk.kindAt? (follow place step) ≠ some none) : ∃ text, step = .name text := by
  cases step with
  | root => exact absurd (@kindAt?_of_append disk [] place holds) apart
  | current => exact absurd holds apart
  | parent =>
      refine absurd ?_ apart
      rcases List.eq_nil_or_concat place with rfl | ⟨above, name, rfl⟩
      · exact holds
      · rw [List.concat_eq_append] at holds ⊢
        rw [follow, List.dropLast_concat]
        exact kindAt?_of_append holds
  | name text => exact ⟨text, rfl⟩

/-- What is put where a path leads, in place of a file or nothing, is found there, and everything
else is as it was. -/
theorem kindAt?_put_placeOf {node : Node} (reaches : disk.Reaches path)
    (free : disk.kindAt? (disk.placeOf path) ≠ some none)
    (childless : ∀ name, node.child? name = none) (place : Node.Place) :
    (disk.put (disk.placeOf path) node).kindAt? place =
      if place = disk.placeOf path then some node.content? else disk.kindAt? place := by
  rcases reaches with ⟨_, _, holds, _⟩
  rw [placeOf_eq_follow] at free ⊢
  rcases exists_name_of_follow holds free with ⟨text, named⟩
  rw [named, follow] at free ⊢
  apply Node.kindAt?_put (by simp) _ free childless place
  rwa [List.dropLast_concat]

/-! ## Reading and writing -/

theorem read_eq_ok_iff {text : String} :
    disk.read path = .ok text ↔
      disk.Reaches path ∧ disk.kindAt? (disk.placeOf path) = some (some (.text text)) := by
  rw [read, bind_eq_ok_iff, ← map_content?_node?_spotAt]
  simp only [locate_eq_ok_iff]
  constructor
  · rintro ⟨spot, ⟨reaches, rfl⟩, found⟩
    refine ⟨reaches, ?_⟩
    split at found
    next => cases found
    next => cases found
    next => cases found
    next node =>
      obtain rfl := Except.ok.inj found
      rw [node]
      rfl
  · rintro ⟨reaches, found⟩
    rcases Option.map_eq_some_iff.mp found with ⟨node, there, content⟩
    refine ⟨_, ⟨reaches, rfl⟩, ?_⟩
    cases node with
    | directory entries => cases content
    | file held =>
        obtain rfl := Option.some.inj content
        rw [there]
        rfl

/-- A text that is read is that of a file on the disk. -/
theorem exists_mem_files_of_read {text : String} (found : disk.read path = .ok text) :
    ∃ place, (place, .text text) ∈ disk.root.files :=
  ⟨_, Node.mem_files_of_kindAt? (read_eq_ok_iff.mp found).2⟩

/-- How a disk is after something was written. -/
structure Wrote (disk later : Disk) (path : String) (content : Content) : Prop where
  reaches : disk.Reaches path
  free : disk.kindAt? (disk.placeOf path) ≠ some none
  here : later.here = disk.here
  kind (place : Node.Place) : later.kindAt? place =
    if place = disk.placeOf path then some (some content) else disk.kindAt? place

/-- Writing succeeds where a path leads to a place in a directory that no directory takes. -/
theorem write_eq_ok_iff {content : Content} :
    disk.write path content = .ok later ↔
      disk.Reaches path ∧ disk.kindAt? (disk.placeOf path) ≠ some none
        ∧ later = disk.put (disk.placeOf path) (.file content) := by
  rw [write, bind_eq_ok_iff]
  simp only [locate_eq_ok_iff]
  constructor
  · rintro ⟨spot, ⟨reaches, rfl⟩, put⟩
    split at put
    next => cases put
    next free =>
      rw [place_spotAt] at put
      exact ⟨reaches, mt isDirectory_spotAt.mpr free, (Except.ok.inj put).symm⟩
  · rintro ⟨reaches, free, rfl⟩
    refine ⟨_, ⟨reaches, rfl⟩, ?_⟩
    rw [if_neg (mt isDirectory_spotAt.mp free), place_spotAt]
    rfl

theorem wrote_of_write {content : Content} (done : disk.write path content = .ok later) :
    disk.Wrote later path content := by
  rcases write_eq_ok_iff.mp done with ⟨reaches, free, rfl⟩
  exact ⟨reaches, free, rfl, kindAt?_put_placeOf reaches free (Node.child?_file content)⟩

/-! ## Making directories -/

/-- A disk with more directories than another, and otherwise the same. -/
structure AddsDirectories (disk later : Disk) : Prop where
  here : later.here = disk.here
  kind (place : Node.Place) : later.kindAt? place = disk.kindAt? place
    ∨ disk.kindAt? place = none ∧ later.kindAt? place = some none

theorem AddsDirectories.refl (disk : Disk) : disk.AddsDirectories disk :=
  ⟨rfl, fun _ => .inl rfl⟩

theorem AddsDirectories.trans {last : Disk} (first : disk.AddsDirectories later)
    (second : later.AddsDirectories last) : disk.AddsDirectories last := by
  refine ⟨second.here.trans first.here, ?_⟩
  intro place
  rcases second.kind place with same | ⟨absent, added⟩
  · rw [same]
    exact first.kind place
  · rcases first.kind place with same | ⟨_, there⟩
    · exact .inr ⟨same ▸ absent, added⟩
    · cases absent.symm.trans there

theorem addsDirectories_of_makeDirectory (done : disk.makeDirectory path = .ok later) :
    disk.AddsDirectories later := by
  rcases bind_eq_ok_iff.mp done with ⟨spot, located, put⟩
  rcases locate_eq_ok_iff.mp located with ⟨reaches, rfl⟩
  split at put
  next => cases put
  next free =>
    rw [place_spotAt] at put
    obtain rfl := Except.ok.inj put
    rw [isSome_node?_spotAt, Bool.not_eq_true, Option.isSome_eq_false_iff,
      Option.isNone_iff_eq_none] at free
    refine ⟨rfl, ?_⟩
    intro place
    rw [kindAt?_put_placeOf reaches (by rw [free]; nofun) (fun _ => rfl)]
    by_cases same : place = disk.placeOf path
    · rw [if_pos same, same]
      exact .inr ⟨free, rfl⟩
    · exact .inl (if_neg same)

theorem addsDirectories_of_ensureDirectory (done : disk.ensureDirectory path = .ok later) :
    disk.AddsDirectories later := by
  rw [ensureDirectory] at done
  split at done
  next =>
    split at done
    next =>
      obtain rfl := Except.ok.inj done
      exact .refl disk
    next => cases done
  next => exact addsDirectories_of_makeDirectory done

theorem addsDirectories_of_ensureChain {paths : List String}
    (done : disk.ensureChain paths = .ok later) : disk.AddsDirectories later := by
  induction paths generalizing later with
  | nil =>
      obtain rfl := Except.ok.inj done
      exact .refl disk
  | cons path above ih =>
      rw [ensureChain] at done
      split at done
      next =>
        rcases bind_eq_ok_iff.mp done with ⟨middle, chain, last⟩
        exact (ih chain).trans (addsDirectories_of_ensureDirectory last)
      next => exact addsDirectories_of_ensureDirectory done

/-- Making directories adds directories where nothing was, and does nothing else. -/
theorem addsDirectories_of_makeDirectories (done : disk.makeDirectories path = .ok later) :
    disk.AddsDirectories later :=
  addsDirectories_of_ensureChain done

/-! ## What remains -/

/-- A later disk on which walks still get where they got before. -/
structure GrowsTo (disk later : Disk) : Prop where
  here : later.here = disk.here
  directory (place : Node.Place) :
    disk.kindAt? place = some none → later.kindAt? place = some none
  there (place : Node.Place) :
    (disk.kindAt? place).isSome = true → (later.kindAt? place).isSome = true

theorem AddsDirectories.growsTo (added : disk.AddsDirectories later) : disk.GrowsTo later := by
  refine ⟨added.here, ?_, ?_⟩
  · intro place holds
    rcases added.kind place with same | ⟨absent, _⟩
    · rw [same, holds]
    · cases absent.symm.trans holds
  · intro place found
    rcases added.kind place with same | ⟨_, there⟩
    · rw [same, found]
    · rw [there]
      rfl

theorem Wrote.growsTo {content : Content} (wrote : disk.Wrote later path content) :
    disk.GrowsTo later := by
  refine ⟨wrote.here, ?_, ?_⟩
  · intro place holds
    have apart : place ≠ disk.placeOf path := by
      rintro rfl
      exact wrote.free holds
    rw [wrote.kind, if_neg apart, holds]
  · intro place found
    rw [wrote.kind]
    split
    · rfl
    · exact found

namespace GrowsTo

variable (grows : disk.GrowsTo later)

include grows

theorem placeOf_eq (path : String) : later.placeOf path = disk.placeOf path := by
  rw [placeOf, placeOf, grows.here]

theorem opens {place : Node.Place} {step : Path.Component} (opens : disk.Opens place step) :
    later.Opens place step :=
  ⟨grows.directory place opens.1, opens.2⟩

theorem walks {place : Node.Place} {steps : List Path.Component} (walks : disk.Walks place steps) :
    later.Walks place steps := by
  induction steps generalizing place with
  | nil => exact trivial
  | cons step rest ih =>
      rcases walks with ⟨opens, there, behind⟩
      exact ⟨grows.opens opens, grows.there _ there, ih behind⟩

theorem reaches (reaches : disk.Reaches path) : later.Reaches path := by
  rcases reaches with ⟨sound, walks, opens⟩
  rw [Reaches, grows.here]
  exact ⟨sound, grows.walks walks, grows.opens opens⟩

end GrowsTo

variable {text : String}

/-- More directories do not change what is read. -/
theorem AddsDirectories.read_eq_ok (added : disk.AddsDirectories later)
    (found : disk.read path = .ok text) : later.read path = .ok text := by
  rcases read_eq_ok_iff.mp found with ⟨reaches, held⟩
  refine read_eq_ok_iff.mpr ⟨added.growsTo.reaches reaches, ?_⟩
  rw [added.growsTo.placeOf_eq]
  rcases added.kind (disk.placeOf path) with same | ⟨absent, _⟩
  · rw [same, held]
  · cases absent.symm.trans held

/-- What was written is read wherever a path leads to its place. -/
theorem Wrote.read_eq_ok {other : String} (wrote : disk.Wrote later path (.text text))
    (reaches : disk.Reaches other) (same : disk.placeOf other = disk.placeOf path) :
    later.read other = .ok text := by
  refine read_eq_ok_iff.mpr ⟨wrote.growsTo.reaches reaches, ?_⟩
  rw [wrote.growsTo.placeOf_eq, wrote.kind, if_pos same]

/-- At other places writing does not change what is read. -/
theorem Wrote.read_eq_ok_of_ne {other held : String} (wrote : disk.Wrote later path (.text text))
    (apart : disk.placeOf other ≠ disk.placeOf path) (found : disk.read other = .ok held) :
    later.read other = .ok held := by
  rcases read_eq_ok_iff.mp found with ⟨reaches, kind⟩
  refine read_eq_ok_iff.mpr ⟨wrote.growsTo.reaches reaches, ?_⟩
  rw [wrote.growsTo.placeOf_eq, wrote.kind, if_neg apart, kind]

end RpcStubs.Disk
