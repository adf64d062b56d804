import RpcStubs.Go.Name
import RpcStubs.Proofs.Text.Upper

/-!
# Names in exported form

Every name that is not empty has an exported form (`isExported_exported_iff`), and it has it already
exactly where nothing changes (`exported_eq_self_iff`). So the exported form closes names: taking it
again changes nothing (`exported_closure`).
-/

namespace RpcStubs.Go

/-- The exported form of a name is exported, unless the name is empty. -/
theorem isExported_exported_iff (raw : String) : isExported (exported raw) = true ↔ raw ≠ "" := by
  cases chars : raw.toList with
  | nil =>
      obtain rfl : raw = "" := String.toList_inj.mp chars
      decide
  | cons c rest =>
      have named : raw ≠ "" := by
        rintro rfl
        cases chars
      rcases Text.exists_upper_eq c with ⟨d, others, upper, fixed⟩
      have written : (exported raw).toList = d :: (others ++ rest) := by
        rw [toList_exported, chars, exportChars, upper, List.cons_append]
      exact iff_of_true ((isExported_iff written).mpr fixed) named

/-- What follows a name does not matter to whether it is exported. -/
theorem isExported_append {name : String} (named : name ≠ "") (rest : String) :
    isExported (name ++ rest) = isExported name := by
  cases chars : name.toList with
  | nil => exact absurd (String.toList_inj.mp chars) named
  | cons c others => simp [isExported, chars]

/-- The names that the exported form leaves as they are are the empty one and the exported ones. -/
theorem exported_eq_self_iff (raw : String) :
    exported raw = raw ↔ raw = "" ∨ isExported raw = true := by
  rw [← String.toList_inj, ← String.toList_inj, toList_exported]
  cases chars : raw.toList with
  | nil => simp [exportChars]
  | cons c rest =>
      have single : c :: rest = [c] ++ rest := rfl
      rw [exportChars, isExported_iff chars, single, List.append_left_inj]
      simp

theorem isExported_iff_exported_eq_self (raw : String) :
    isExported raw = true ↔ raw ≠ "" ∧ exported raw = raw := by
  rw [exported_eq_self_iff]
  constructor
  · intro already
    refine ⟨?_, .inr already⟩
    rintro rfl
    cases already
  · rintro ⟨named, empty | already⟩
    · exact absurd empty named
    · exact already

theorem exported_exported (raw : String) : exported (exported raw) = exported raw := by
  rw [exported_eq_self_iff]
  by_cases empty : raw = ""
  · rw [empty]
    exact .inl exported_empty
  · exact .inr ((isExported_exported_iff raw).mpr empty)

/-- The exported form is the upper case of the first character, one to three characters, with all
other characters behind it. -/
theorem exists_opening_exported_eq (raw : String) :
    ∃ opening, (exported raw).toList = opening ++ raw.toList.tail ∧
      opening = raw.toList.head?.elim [] Text.upper ∧ opening.length ≤ 3 ∧
      (opening = [] ↔ raw = "") := by
  cases chars : raw.toList with
  | nil =>
      obtain rfl : raw = "" := String.toList_inj.mp chars
      exact ⟨[], rfl, rfl, Nat.zero_le 3, iff_of_true rfl rfl⟩
  | cons first rest =>
      rcases Text.length_upper first with ⟨some, few⟩
      have named : raw ≠ "" := by
        rintro rfl
        cases chars
      have opened : Text.upper first ≠ [] := List.length_pos_iff.mp some
      refine ⟨Text.upper first, ?_, rfl, few, iff_of_false opened named⟩
      rw [toList_exported, chars]
      rfl

/-- Taking the exported form twice is taking it once. The exported names are those that it leaves as
they are, the empty one apart, and it is exported itself unless the name is empty. It puts the upper
case of the first character, one to three characters, in front of all the others. -/
theorem exported_closure (raw : String) :
    exported (exported raw) = exported raw ∧
    (isExported raw = true ↔ raw ≠ "" ∧ exported raw = raw) ∧
    (isExported (exported raw) = true ↔ raw ≠ "") ∧
    ∃ opening, (exported raw).toList = opening ++ raw.toList.tail ∧
      opening = raw.toList.head?.elim [] Text.upper ∧ opening.length ≤ 3 ∧
      (opening = [] ↔ raw = "") := by
  constructor
  · exact exported_exported raw
  · exact ⟨isExported_iff_exported_eq_self raw, isExported_exported_iff raw,
      exists_opening_exported_eq raw⟩

-- A ligature of three letters is written out; the sign for a capital digraph stays as it is.
example : exported "ﬃx" = "FFIx" ∧ exported "Ǆungla" = "Ǆungla" := by decide

end RpcStubs.Go
