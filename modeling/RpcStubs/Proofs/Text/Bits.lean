import Mathlib.Algebra.Group.Nat.Defs
import RpcStubs.Text.Ranges

/-!
# Sets of code points as bits

A table of code points is held as the bits of one number. One `and` then compares two tables,
however long they are: without a common bit they have no member in common.
-/

namespace RpcStubs.Text

theorem testBit_eq_false_of_and_eq_zero {first second n : Nat} (apart : first &&& second = 0)
    (inFirst : first.testBit n = true) : second.testBit n = false := by
  have both := congrArg (Nat.testBit · n) apart
  simpa [inFirst] using both

/-! ## Lists -/

/-- Some numbers as the bits of one. -/
def bitSet (members : List Nat) : Nat :=
  members.foldr (fun n bits => bits ||| 1 <<< n) 0

theorem testBit_bitSet (members : List Nat) (n : Nat) :
    (bitSet members).testBit n = decide (n ∈ members) := by
  induction members with
  | nil => simp [bitSet]
  | cons first rest ih =>
      have inserted : bitSet (first :: rest) = bitSet rest ||| 1 <<< first := rfl
      have single : (1 <<< first).testBit n = decide (n = first) := by
        rw [Nat.one_shiftLeft, Nat.testBit_two_pow]
        exact decide_eq_decide.mpr eq_comm
      rw [inserted, Nat.testBit_or, ih, single, Bool.or_comm, ← Bool.decide_or]
      exact decide_eq_decide.mpr List.mem_cons.symm

/-- Lists without a common bit have no common member. -/
theorem not_mem_of_bitSet_and_eq_zero {first second : List Nat}
    (apart : bitSet first &&& bitSet second = 0) {n : Nat} (inFirst : n ∈ first) :
    n ∉ second := by
  have bit : (bitSet first).testBit n = true := by
    rw [testBit_bitSet, decide_eq_true inFirst]
  have noBit := testBit_eq_false_of_and_eq_zero apart bit
  rwa [testBit_bitSet, decide_eq_false_iff_not] at noBit

/-! ## Intervals -/

/-- A set of code points as the bits of one number. -/
def Ranges.bits (ranges : Ranges) : Nat :=
  ranges.foldr
    (fun interval bits => bits ||| (2 ^ (interval.2 + 1 - interval.1) - 1) <<< interval.1) 0

theorem Ranges.testBit_bits (ranges : Ranges) (c : Char) :
    ranges.bits.testBit c.toNat = ranges.covers c := by
  induction ranges with
  | nil => simp [bits, covers]
  | cons interval rest ih =>
      have inserted : bits (interval :: rest) =
          bits rest ||| (2 ^ (interval.2 + 1 - interval.1) - 1) <<< interval.1 := rfl
      have covered : covers (interval :: rest) c =
          ((decide (interval.1 ≤ c.toNat) && decide (c.toNat ≤ interval.2)) || covers rest c) := rfl
      rw [inserted, covered, Nat.testBit_or, ih, Nat.testBit_shiftLeft, Nat.testBit_two_pow_sub_one,
        Bool.or_comm]
      by_cases low : interval.1 ≤ c.toNat
      · have high : c.toNat - interval.1 < interval.2 + 1 - interval.1 ↔ c.toNat ≤ interval.2 := by
          omega
        simp [low, high]
      · simp [low]

/-- Sets without a common bit have no common character. -/
theorem Ranges.covers_eq_false_of_bits_and_eq_zero {first second : Ranges}
    (apart : first.bits &&& second.bits = 0) {c : Char} (inFirst : first.covers c = true) :
    second.covers c = false := by
  rw [← testBit_bits] at inFirst ⊢
  exact testBit_eq_false_of_and_eq_zero apart inFirst

end RpcStubs.Text
