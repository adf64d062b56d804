import Mathlib
import RpcStubs.Proofs.Sorted.Lookup
import RpcStubs.Symbol.Scope

/-!
# Free package names

A package name that is taken gets a number behind it. The numbered names of one base are all
different, so among one more of them than there are names taken one is free: the search for a free
name never falls back on its default, and it answers the first name in the row that is free.
-/

namespace RpcStubs.ImportScope

/-- No two numbers make the same name of one base. -/
theorem numbered_injective {base : String} {m n : Nat} (same : numbered base m = numbered base n) :
    m = n := by
  have longer : ∀ {k : Nat}, base ++ k.repr ≠ base := by
    intro k equal
    simp at equal
  unfold numbered at same
  simp only [Nat.toString_eq_repr] at same
  split at same <;> split at same
  next first second => rw [first, second]
  next => exact absurd same.symm longer
  next => exact absurd same longer
  next => exact Nat.repr_injective ((String.append_right_inj base).mp same)

/-- One more name than there are names taken cannot all be taken. -/
theorem exists_numbered_free (scope : ImportScope) (base : String) :
    ∃ n, n ≤ scope.names.size ∧ scope.names.contains (numbered base n) = false := by
  apply Classical.byContradiction
  intro none
  have taken : ∀ n, n ≤ scope.names.size → scope.names.contains (numbered base n) = true := by
    intro n bound
    cases held : scope.names.contains (numbered base n) with
    | true => rfl
    | false => exact absurd ⟨n, bound, held⟩ none
  have distinct : ((List.range (scope.names.size + 1)).map (numbered base)).Nodup := by
    refine List.Pairwise.map (numbered base) ?_ List.nodup_range
    intro m n different same
    exact different (numbered_injective same)
  have subset : (List.range (scope.names.size + 1)).map (numbered base) ⊆ scope.names.keys := by
    intro name member
    rcases List.mem_map.mp member with ⟨n, inRange, rfl⟩
    have held := taken n (Nat.lt_succ_iff.mp (List.mem_range.mp inRange))
    rcases SortedMap.contains_iff.mp held with ⟨path, found⟩
    exact SortedMap.mem_keys_iff.mpr ⟨path, (SortedMap.mem_entries_iff _ _ _).mpr found⟩
  have bound := distinct.length_le_of_subset subset
  simp only [SortedMap.keys, SortedMap.size, List.length_map, List.length_range] at bound
  omega

/-- The name chosen for a base is the first in its row of numbered names that no path holds. -/
theorem exists_freeName (scope : ImportScope) (base : String) :
    ∃ n, n ≤ scope.names.size ∧ scope.freeName base = numbered base n
      ∧ scope.names.find? (numbered base n) = none
      ∧ ∀ m, m < n → scope.names.contains (numbered base m) = true := by
  rcases scope.exists_numbered_free base with ⟨k, small, free⟩
  cases search : (List.range (scope.names.size + 1)).find?
      ((fun name => !scope.names.contains name) ∘ numbered base) with
  | none =>
      have all := List.find?_range_eq_none.mp search k (Nat.lt_succ_of_le small)
      simp [free] at all
  | some n =>
      rcases List.find?_range_eq_some.mp search with ⟨passes, inRange, earlier⟩
      refine ⟨n, Nat.lt_succ_iff.mp (List.mem_range.mp inRange), ?_, ?_, ?_⟩
      · rw [freeName, List.find?_map, search]
        rfl
      · exact SortedMap.contains_eq_false_iff.mp (by simpa using passes)
      · intro m before
        simpa using earlier m before

/-- No path holds the name chosen for a base. -/
theorem find?_freeName (scope : ImportScope) (base : String) :
    scope.names.find? (scope.freeName base) = none := by
  rcases scope.exists_freeName base with ⟨n, _, chosen, free, _⟩
  rw [chosen, free]

end RpcStubs.ImportScope
