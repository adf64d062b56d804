import RpcStubs.Sorted.Map

/-!
# Sets in order

A set is a map whose keys carry nothing; its members are listed in increasing order.
-/

namespace RpcStubs

universe u

/-- A finite set whose members stand in increasing order. -/
abbrev SortedSet (κ : Type u) [LT κ] := SortedMap κ Unit

namespace SortedSet

variable {κ : Type u} [LT κ]

/-- The members, in increasing order. -/
def toList (set : SortedSet κ) : List κ :=
  SortedMap.keys set

variable [LE κ] [Std.IsLinearOrder κ] [Std.LawfulOrderLT κ] [DecidableLT κ] [DecidableEq κ]

/-- The set with one more member. -/
def add (set : SortedSet κ) (member : κ) : SortedSet κ :=
  SortedMap.insertIfNew set member ()

/-- The set of the members of a list. -/
def ofList (members : List κ) : SortedSet κ :=
  members.foldl add SortedMap.empty

/-- A member is in the set after an addition when it was before or is the one added. -/
theorem contains_add (set : SortedSet κ) (member other : κ) :
    (add set member).contains other =
      (decide (other = member) || SortedMap.contains set other) := by
  simp only [SortedMap.contains_eq_isSome_find?, add, SortedMap.find?_insertIfNew]
  by_cases same : other = member <;> simp [same]

end SortedSet

end RpcStubs
