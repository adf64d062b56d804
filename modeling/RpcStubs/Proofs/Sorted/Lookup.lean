import RpcStubs.Sorted.Set

/-!
# Entries and lookups

A map that is sorted by key has one entry a key, so its entries and its lookups determine each
other. Searching for the first key whose value passes a test therefore answers a question about
lookups alone, and the members of a set can be listed without losing or repeating one.
-/

namespace RpcStubs

universe u v

namespace SortedMap

variable {κ : Type u} {ν : Type v}

/-- Keys are listed in increasing order. -/
theorem keys_increasing [LT κ] (map : SortedMap κ ν) :
    map.keys.Pairwise fun first second => first < second :=
  List.pairwise_map.mpr map.increasing

theorem mem_keys_iff [LT κ] {map : SortedMap κ ν} {key : κ} :
    key ∈ map.keys ↔ ∃ value, (key, value) ∈ map.entries := by
  simp [keys]

theorem contains_iff [LT κ] [DecidableEq κ] {map : SortedMap κ ν} {key : κ} :
    map.contains key = true ↔ ∃ value, map.find? key = some value := by
  rw [contains_eq_isSome_find?, Option.isSome_iff_exists]

theorem contains_eq_false_iff [LT κ] [DecidableEq κ] {map : SortedMap κ ν} {key : κ} :
    map.contains key = false ↔ map.find? key = none := by
  rw [contains_eq_isSome_find?, Option.isSome_eq_false_iff, Option.isNone_iff_eq_none]

/-- A lookup in a list finds one of its entries. -/
theorem mem_of_valueAt?_eq_some [DecidableEq κ] {key : κ} {value : ν} {entries : List (κ × ν)}
    (found : valueAt? key entries = some value) : (key, value) ∈ entries := by
  rcases Option.map_eq_some_iff.mp found with ⟨entry, first, rfl⟩
  have same : entry.1 = key := by
    simpa using List.find?_some first
  rw [← same]
  exact List.mem_of_find?_eq_some first

section Entries

variable [LE κ] [LT κ] [Std.LawfulOrderLT κ] [DecidableEq κ]

/-- In a list in increasing order of key every entry is the one that a lookup finds. -/
theorem valueAt?_of_mem {key : κ} {value : ν} {entries : List (κ × ν)}
    (increasing : entries.Pairwise fun first second => first.1 < second.1)
    (member : (key, value) ∈ entries) : valueAt? key entries = some value := by
  induction entries with
  | nil => cases member
  | cons first rest ih =>
      rcases List.pairwise_cons.mp increasing with ⟨least, restIncreasing⟩
      rcases List.mem_cons.mp member with rfl | later
      · simp [valueAt?]
      · have different : first.1 ≠ key := fun same =>
          Std.lt_irrefl (same ▸ least _ later)
        have found := ih restIncreasing later
        simpa [valueAt?, different] using found

/-- The entries of a map are what its lookups find. -/
theorem mem_entries_iff (map : SortedMap κ ν) (key : κ) (value : ν) :
    (key, value) ∈ map.entries ↔ map.find? key = some value := by
  constructor
  · exact valueAt?_of_mem map.increasing
  · exact mem_of_valueAt?_eq_some

/-- Maps with the same lookups are the same map. -/
theorem eq_of_find?_eq {first second : SortedMap κ ν}
    (same : ∀ key, first.find? key = second.find? key) : first = second := by
  have distinct (map : SortedMap κ ν) : map.entries.Nodup := by
    refine map.increasing.imp ?_
    rintro entry _ less rfl
    exact Std.lt_irrefl less
  have members : first.entries.Perm second.entries := by
    rw [List.perm_ext_iff_of_nodup (distinct first) (distinct second)]
    rintro ⟨key, value⟩
    rw [mem_entries_iff, mem_entries_iff, same]
  refine ext_entries (members.eq_of_pairwise ?_ first.increasing second.increasing)
  intro entry other _ _ less greater
  exact absurd greater (Std.not_gt_of_lt less)

/-! ## The first key that passes -/

variable {map : SortedMap κ ν} {test : ν → Bool}

theorem firstKey?_eq_none_iff :
    map.firstKey? test = none ↔
      ∀ key value, map.find? key = some value → test value = false := by
  simp only [firstKey?, Option.map_eq_none_iff, List.find?_eq_none, Bool.not_eq_true]
  constructor
  · intro fails key value found
    exact fails (key, value) ((mem_entries_iff map key value).mpr found)
  · intro fails entry member
    exact fails entry.1 entry.2 ((mem_entries_iff map _ _).mp member)

variable [Std.IsLinearOrder κ]

/-- What the search finds passes, and stands in front of all that pass. -/
theorem least_of_firstKey?_eq_some {key : κ} (first : map.firstKey? test = some key) :
    (∃ value, map.find? key = some value ∧ test value = true)
      ∧ ∀ other held, map.find? other = some held → test held = true → key ≤ other := by
  rcases Option.map_eq_some_iff.mp first with ⟨entry, search, rfl⟩
  rcases List.find?_eq_some_iff_append.mp search with ⟨passes, front, back, split, fails⟩
  have member := List.mem_of_find?_eq_some search
  have increasing := map.increasing
  rw [split] at increasing
  have above := (List.pairwise_cons.mp (List.pairwise_append.mp increasing).2.1).1
  constructor
  · exact ⟨entry.2, (mem_entries_iff map _ _).mp member, passes⟩
  · intro other held bound passesOther
    have otherMember := (mem_entries_iff map _ _).mpr bound
    rw [split] at otherMember
    rcases List.mem_append.mp otherMember with inFront | later
    · have stops := fails _ inFront
      rw [passesOther] at stops
      contradiction
    · rcases List.mem_cons.mp later with here | behind
      · rw [← here]
        exact Std.le_refl other
      · exact Std.le_of_lt (above _ behind)

/-- The search finds the least of the keys whose values pass. -/
theorem firstKey?_eq_some_iff {key : κ} :
    map.firstKey? test = some key ↔
      (∃ value, map.find? key = some value ∧ test value = true)
        ∧ ∀ other held, map.find? other = some held → test held = true → key ≤ other := by
  constructor
  · exact least_of_firstKey?_eq_some
  · rintro ⟨⟨value, found, passes⟩, below⟩
    cases search : map.firstKey? test with
    | none =>
        have fails := firstKey?_eq_none_iff.mp search key value found
        rw [passes] at fails
        contradiction
    | some first =>
        rcases least_of_firstKey?_eq_some search with ⟨⟨held, foundFirst, passesFirst⟩, least⟩
        have same := Std.le_antisymm (below first held foundFirst passesFirst)
          (least key value found passes)
        rw [same]

end Entries

end SortedMap

namespace SortedSet

variable {κ : Type u} [LE κ] [LT κ] [Std.LawfulOrderLT κ]

/-- No member is listed twice. -/
theorem nodup_toList (set : SortedSet κ) : (toList set).Nodup := by
  refine List.Pairwise.imp ?_ (SortedMap.keys_increasing set)
  intro first second less same
  exact Std.lt_irrefl (same ▸ less)

variable [DecidableEq κ]

theorem mem_toList_iff {set : SortedSet κ} {member : κ} :
    member ∈ toList set ↔ SortedMap.contains set member = true := by
  simp [toList, SortedMap.mem_keys_iff, SortedMap.mem_entries_iff, SortedMap.contains_iff]

variable [Std.IsLinearOrder κ] [DecidableLT κ]

@[simp]
theorem mem_toList_add {set : SortedSet κ} {member other : κ} :
    other ∈ toList (add set member) ↔ other = member ∨ other ∈ toList set := by
  simp only [mem_toList_iff, contains_add, Bool.or_eq_true, decide_eq_true_eq]

/-- Adding a member that is there already changes nothing. -/
theorem add_of_mem {set : SortedSet κ} {member : κ} (present : member ∈ toList set) :
    add set member = set := by
  have held := mem_toList_iff.mp present
  simp [add, SortedMap.insertIfNew, held]

end SortedSet

end RpcStubs
