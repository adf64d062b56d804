/-!
# Sets of characters

A class of characters is a list of intervals of code points, so that the same list can be
searched when the program runs and walked when a fact about the whole class is proved.
-/

namespace RpcStubs.Text

/-- A set of code points as intervals, both ends included. -/
abbrev Ranges := List (Nat × Nat)

/-- Whether a character's code point lies in one of the intervals. -/
def Ranges.covers (ranges : Ranges) (c : Char) : Bool :=
  ranges.any fun interval => interval.1 ≤ c.toNat && c.toNat ≤ interval.2

theorem Ranges.covers_append (first second : Ranges) (c : Char) :
    Ranges.covers (first ++ second) c = (first.covers c || second.covers c) := by
  simp [Ranges.covers]

end RpcStubs.Text
