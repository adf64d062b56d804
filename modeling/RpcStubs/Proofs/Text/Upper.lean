import RpcStubs.Proofs.Text.Bits
import RpcStubs.Text.Upper

/-!
# Upper case of upper case

The first character of an upper case is its own upper case (`exists_upper_eq`). For single
characters the tables show it: no code point that begins an entry of the upper case has an entry
itself.
-/

namespace RpcStubs.Text

/-! ## Code points with and in upper case -/

/-- The code points of a run. -/
def CaseRun.members (run : CaseRun) : List Nat :=
  List.range' run.first ((run.last - run.first) / run.step + 1) run.step

theorem CaseRun.mem_members_of_covers {run : CaseRun} {n : Nat} (covered : run.covers n = true) :
    n ∈ run.members := by
  simp only [covers, Bool.and_eq_true, decide_eq_true_eq, beq_iff_eq] at covered
  rcases covered with ⟨⟨low, high⟩, divides⟩
  refine List.mem_range'.mpr ⟨(n - run.first) / run.step, ?_, ?_⟩
  · exact Nat.lt_succ_of_le (Nat.div_le_div_right (Nat.sub_le_sub_right high _))
  · rw [Nat.mul_div_cancel' (Nat.dvd_of_mod_eq_zero divides)]
    omega

/-- The code points with an upper case that is not the code point itself. -/
def casedCodes : List Nat :=
  upperExpansions.map Prod.fst ++ upperRuns.flatMap CaseRun.members

/-- The code points with which such an upper case begins. -/
def openingCodes : List Nat :=
  upperExpansions.filterMap (·.2.head?)
    ++ upperRuns.flatMap fun run => run.members.map run.image

theorem not_mem_casedCodes_of_mem_openingCodes {n : Nat} (opening : n ∈ openingCodes) :
    n ∉ casedCodes :=
  not_mem_of_bitSet_and_eq_zero
    (by decide +kernel : bitSet openingCodes &&& bitSet casedCodes = 0) opening

theorem isValidChar_of_mem_openingCodes : ∀ n ∈ openingCodes, n.isValidChar := by
  decide +kernel

theorem upperCode_of_not_mem {n : Nat} (uncased : n ∉ casedCodes) : upperCode n = [n] := by
  have noExpansion : upperExpansions.find? (fun entry => entry.1 == n) = none := by
    rw [List.find?_eq_none]
    intro entry member same
    exact uncased (List.mem_append_left _ (List.mem_map.mpr ⟨entry, member, eq_of_beq same⟩))
  have noRun : upperRuns.find? (fun run => run.covers n) = none := by
    rw [List.find?_eq_none]
    intro run member covered
    exact uncased (List.mem_append_right _
      (List.mem_flatMap.mpr ⟨run, member, CaseRun.mem_members_of_covers covered⟩))
  simp [upperCode, noExpansion, noRun]

/-- An upper case begins with one of the opening codes, unless it is the code point itself. -/
theorem exists_upperCode_eq (n : Nat) :
    ∃ first rest, upperCode n = first :: rest ∧ (first ∈ openingCodes ∨ upperCode n = [n]) := by
  cases expansion : upperExpansions.find? fun entry => entry.1 == n with
  | some entry =>
      have member := List.mem_of_find?_eq_some expansion
      have opened : ∀ entry ∈ upperExpansions, entry.2 ≠ [] := by decide
      rcases List.exists_cons_of_ne_nil (opened entry member) with ⟨first, rest, codes⟩
      refine ⟨first, rest, by simp [upperCode, expansion, codes], .inl ?_⟩
      exact List.mem_append_left _
        (List.mem_filterMap.mpr ⟨entry, member, by rw [codes, List.head?_cons]⟩)
  | none =>
      cases covering : upperRuns.find? fun run => run.covers n with
      | some run =>
          have member := List.mem_of_find?_eq_some covering
          have covers : run.covers n = true := by simpa using List.find?_some covering
          have covered := CaseRun.mem_members_of_covers covers
          refine ⟨run.image n, [], by simp [upperCode, expansion, covering], .inl ?_⟩
          exact List.mem_append_right _
            (List.mem_flatMap.mpr ⟨run, member, List.mem_map_of_mem covered⟩)
      | none =>
          have same : upperCode n = [n] := by simp [upperCode, expansion, covering]
          exact ⟨n, [], same, .inr same⟩

/-! ## Characters -/

/-- An upper case has a first character, and this is its own upper case. -/
theorem exists_upper_eq (c : Char) : ∃ d rest, upper c = d :: rest ∧ upper d = [d] := by
  rcases exists_upperCode_eq c.toNat with ⟨first, rest, codes, opening | same⟩
  · have valid := isValidChar_of_mem_openingCodes first opening
    have code : (Char.ofNat first).toNat = first := by
      rw [Char.ofNat, dif_pos valid]
      rfl
    have fixed := upperCode_of_not_mem (not_mem_casedCodes_of_mem_openingCodes opening)
    refine ⟨Char.ofNat first, rest.map Char.ofNat, by rw [upper, codes, List.map_cons], ?_⟩
    rw [upper, code, fixed, List.map_singleton]
  · have fixed : upper c = [c] := by rw [upper, same, List.map_singleton, Char.ofNat_toNat]
    exact ⟨c, [], fixed, fixed⟩

/-- An upper case is one to three characters long. -/
theorem length_upper (c : Char) : 1 ≤ (upper c).length ∧ (upper c).length ≤ 3 := by
  have expanded : ∀ entry ∈ upperExpansions, 1 ≤ entry.2.length ∧ entry.2.length ≤ 3 := by decide
  rw [upper, List.length_map, upperCode]
  split
  next entry found => exact expanded entry (List.mem_of_find?_eq_some found)
  next => split <;> simp

end RpcStubs.Text
