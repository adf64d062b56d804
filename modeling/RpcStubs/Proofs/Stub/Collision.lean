import Mathlib.Data.List.Nodup
import Mathlib.Data.List.ProdSigma
import Mathlib.Data.List.Infix
import RpcStubs.Stub.Identifier

/-!
# Collisions of identifiers

An identifier is a service name between an opening and an ending. Two services are given one
identifier where what one of them has in front or behind is taken for a part of the other's name.
Comparing openings from the front and endings from the back leaves two ways: one name is the other
with something around it, or both share a core and each has something on one side of it. The main
statement is that these are all (`exists_spell_eq_iff`), so that the identifiers of some names are
all different exactly where the names are and no two of them collide (`nodup_flatMap_spellings_iff`).
-/

namespace RpcStubs.Stub

/-- What stands around one name where another one with it spells the same identifier. -/
def wrappings : List (String × String) :=
  [("New", ""), ("", "One"), ("New", "One")]

/-- What stands in front of a core in one name and behind it in the other where both spell the same
identifier. -/
def interlockings : List (String × String) :=
  ["ServeFor", "NewXClientFor", "NewOneClientFor"].product ["Impl", "Client", "OneClient"]
    ++ ["XClientFor", "OneClientFor"].product ["Client", "OneClient"]
    ++ [("New", "One")]

/-- A name collides with another: it is the other in a wrapping, or the two interlock. -/
def Collides (first second : String) : Prop :=
  (∃ frame ∈ wrappings, first = frame.1 ++ second ++ frame.2)
    ∨ ∃ lock ∈ interlockings, ∃ core, first = lock.1 ++ core ∧ second = core ++ lock.2

/-- A core between a front and a back is what one word has behind the front. -/
theorem exists_core_iff {front back first second : String} :
    (∃ core, first = front ++ core ∧ second = core ++ back) ↔
      front.toList <+: first.toList
        ∧ second.toList = first.toList.drop front.toList.length ++ back.toList := by
  constructor
  · rintro ⟨core, rfl, rfl⟩
    simp
  · rintro ⟨⟨core, begins⟩, ends⟩
    rw [← begins, List.drop_left] at ends
    refine ⟨String.ofList core, ?_, ?_⟩
    · exact String.toList_inj.mp (by simp [← begins])
    · exact String.toList_inj.mp (by simp [ends])

instance (first second : String) : Decidable (Collides first second) :=
  decidable_of_iff
    ((∃ frame ∈ wrappings, first = frame.1 ++ second ++ frame.2)
      ∨ ∃ lock ∈ interlockings, lock.1.toList <+: first.toList
        ∧ second.toList = first.toList.drop lock.1.toList.length ++ lock.2.toList)
    (by simp only [Collides, exists_core_iff])

/-! ## Words -/

section Words

variable {front back first second : List Char}

/-- No end of one text is the beginning of another, the empty one apart. -/
def Apart (front back : List Char) : Prop :=
  ∀ shared ∈ front.tails, shared <+: back → shared = []

instance : Decidable (Apart front back) :=
  inferInstanceAs (Decidable (∀ shared ∈ front.tails, shared <+: back → shared = []))

/-- Where a front and a back do not overlap, a word that has both has a core between them. -/
theorem append_eq_append_iff_of_apart (apart : Apart front back) :
    first ++ back = front ++ second ↔
      ∃ core, first = front ++ core ∧ second = core ++ back := by
  constructor
  · intro same
    rcases List.append_eq_append_iff.mp same with ⟨shared, begins, ends⟩ | ⟨core, begins, ends⟩
    · have empty : shared = [] :=
        apart shared ((List.mem_tails _ _).mpr ⟨first, begins.symm⟩) ⟨second, ends.symm⟩
      subst empty
      exact ⟨[], by simpa using begins.symm, by simpa using ends.symm⟩
    · exact ⟨core, begins, ends⟩
  · rintro ⟨core, rfl, rfl⟩
    simp

end Words

/-! ## Openings and endings -/

namespace Identifier

/-- What an identifier has in front beyond the opening of another one. -/
def frontBeyond (outer inner : Identifier) : List Char :=
  outer.opening.toList.drop inner.opening.toList.length

/-- What an identifier has behind beyond the ending of another one. -/
def backBeyond (outer inner : Identifier) : List Char :=
  outer.ending.toList.take (outer.ending.toList.length - inner.ending.toList.length)

variable {first second : Identifier} {front back : List Char}

theorem frontBeyond_eq (opening : second.opening.toList = first.opening.toList ++ front) :
    second.frontBeyond first = front := by
  simp [frontBeyond, opening]

theorem backBeyond_eq (ending : second.ending.toList = back ++ first.ending.toList) :
    second.backBeyond first = back := by
  simp [backBeyond, ending]

/-- Of two identifiers of which one has more on both sides, the surplus is a wrapping. -/
theorem wrapping_of_surplus
    (opening : second.opening.toList = first.opening.toList ++ front)
    (ending : second.ending.toList = back ++ first.ending.toList) :
    first = second ∨ (String.ofList front, String.ofList back) ∈ wrappings := by
  have table : ∀ first ∈ all, ∀ second ∈ all,
      first.opening.toList <+: second.opening.toList →
      first.ending.toList <:+ second.ending.toList →
      first = second ∨ (String.ofList (second.frontBeyond first),
        String.ofList (second.backBeyond first)) ∈ wrappings := by
    decide
  have row := table first (mem_all first) second (mem_all second)
    ⟨front, opening.symm⟩ ⟨back, ending.symm⟩
  rwa [frontBeyond_eq opening, backBeyond_eq ending] at row

/-- Of two identifiers of which one has more in front and the other more behind, the surplus is an
interlocking, and its sides do not overlap. -/
theorem interlocking_of_surplus
    (opening : second.opening.toList = first.opening.toList ++ front)
    (ending : first.ending.toList = back ++ second.ending.toList)
    (someFront : front ≠ []) (someBack : back ≠ []) :
    (String.ofList front, String.ofList back) ∈ interlockings ∧ Apart front back := by
  have table : ∀ first ∈ all, ∀ second ∈ all,
      first.opening.toList <+: second.opening.toList →
      second.ending.toList <:+ first.ending.toList →
      second.frontBeyond first ≠ [] → first.backBeyond second ≠ [] →
      (String.ofList (second.frontBeyond first), String.ofList (first.backBeyond second))
          ∈ interlockings
        ∧ Apart (second.frontBeyond first) (first.backBeyond second) := by
    decide
  have row := table first (mem_all first) second (mem_all second)
    ⟨front, opening.symm⟩ ⟨back, ending.symm⟩
  rw [frontBeyond_eq opening, backBeyond_eq ending] at row
  exact row someFront someBack

/-- Every wrapping is what one identifier has beyond another. -/
theorem exists_of_mem_wrappings {frame : String × String} (member : frame ∈ wrappings) :
    ∃ first second : Identifier, second.opening = first.opening ++ frame.1
      ∧ second.ending = frame.2 ++ first.ending := by
  have table : ∀ frame ∈ wrappings, ∃ first ∈ all, ∃ second ∈ all,
      second.opening = first.opening ++ frame.1 ∧ second.ending = frame.2 ++ first.ending := by
    decide
  rcases table frame member with ⟨first, _, second, _, found⟩
  exact ⟨first, second, found⟩

/-- Every interlocking is what one identifier has in front and another one behind. -/
theorem exists_of_mem_interlockings {lock : String × String} (member : lock ∈ interlockings) :
    ∃ first second : Identifier, second.opening = first.opening ++ lock.1
      ∧ first.ending = lock.2 ++ second.ending := by
  have table : ∀ lock ∈ interlockings, ∃ first ∈ all, ∃ second ∈ all,
      second.opening = first.opening ++ lock.1 ∧ first.ending = lock.2 ++ second.ending := by
    decide
  rcases table lock member with ⟨first, _, second, _, found⟩
  exact ⟨first, second, found⟩

end Identifier

/-! ## Collisions -/

/-- A name does not collide with itself: nothing around it leaves it as it is, and no front is a
back with its characters in another order. -/
theorem not_collides_self (name : String) : ¬ Collides name name := by
  rintro (⟨frame, member, same⟩ | ⟨lock, member, core, begins, ends⟩)
  · have someText : ∀ frame ∈ wrappings, frame.1.length + frame.2.length ≠ 0 := by decide
    have lengths := congrArg String.length same
    simp only [String.length_append] at lengths
    have longer := someText frame member
    omega
  · have unlike : ∀ lock ∈ interlockings, ¬ lock.1.toList.Perm lock.2.toList := by decide
    apply unlike lock member
    have same : lock.1.toList ++ core.toList = core.toList ++ lock.2.toList := by
      rw [← String.toList_append, ← String.toList_append, ← begins, ← ends]
    have shuffled : (lock.1.toList ++ core.toList).Perm (lock.2.toList ++ core.toList) :=
      (List.Perm.of_eq same).trans List.perm_append_comm
    exact (List.perm_append_right_iff core.toList).mp shuffled

section Spelled

variable {first second : Identifier} {left right : String} {front back : List Char}

/-- A name that is another one inside what one identifier has beyond another: it is that name and
there is nothing around it, or it collides with it. -/
theorem eq_or_collides_of_wrapped
    (opening : second.opening.toList = first.opening.toList ++ front)
    (ending : second.ending.toList = back ++ first.ending.toList)
    (wrapped : left.toList = front ++ right.toList ++ back) :
    first = second ∧ left = right ∨ Collides left right := by
  rcases Identifier.wrapping_of_surplus opening ending with rfl | member
  · have noFront : front = [] := List.self_eq_append_right.mp opening
    have noBack : back = [] := List.self_eq_append_left.mp ending
    exact .inl ⟨rfl, String.toList_inj.mp (by simpa [noFront, noBack] using wrapped)⟩
  · exact .inr (.inl ⟨_, member, String.toList_inj.mp (by simpa using wrapped)⟩)

/-- Where one identifier has at least as much in front as another and both are spelled alike, they
are the same of the same name, or their names collide. -/
theorem eq_or_collides_of_opening
    (opening : second.opening.toList = first.opening.toList ++ front)
    (same : left.toList ++ first.ending.toList =
      front ++ (right.toList ++ second.ending.toList)) :
    first = second ∧ left = right ∨ Collides left right ∨ Collides right left := by
  rw [← List.append_assoc] at same
  rcases List.append_eq_append_iff.mp same with ⟨back, shared, ending⟩ | ⟨back, wrapped, ending⟩
  · by_cases noFront : front = []
    · subst noFront
      have wrapped : right.toList = [] ++ left.toList ++ back := by simpa using shared
      have opening : first.opening.toList = second.opening.toList ++ [] := by
        simpa using opening.symm
      rcases eq_or_collides_of_wrapped opening ending wrapped with ⟨rfl, rfl⟩ | collides
      · exact .inl ⟨rfl, rfl⟩
      · exact .inr (.inr collides)
    · by_cases noBack : back = []
      · subst noBack
        have wrapped : left.toList = front ++ right.toList ++ [] := by simpa using shared.symm
        have ending : second.ending.toList = [] ++ first.ending.toList := by simpa using ending.symm
        exact (eq_or_collides_of_wrapped opening ending wrapped).imp_right .inl
      · rcases Identifier.interlocking_of_surplus opening ending noFront noBack with
          ⟨member, apart⟩
        rcases (append_eq_append_iff_of_apart apart).mp shared.symm with ⟨core, begins, ends⟩
        refine .inr (.inl (.inr ⟨_, member, String.ofList core, ?_, ?_⟩))
        · exact String.toList_inj.mp (by simpa using begins)
        · exact String.toList_inj.mp (by simpa using ends)
  · exact (eq_or_collides_of_wrapped opening ending wrapped).imp_right .inl

/-- Two identifiers spelled alike are the same of the same name, or their names collide. -/
theorem eq_or_collides_of_spell_eq (same : first.spell left = second.spell right) :
    first = second ∧ left = right ∨ Collides left right ∨ Collides right left := by
  have chars := congrArg String.toList same
  simp only [Identifier.toList_spell, List.append_assoc] at chars
  rcases List.append_eq_append_iff.mp chars with ⟨front, opening, rest⟩ | ⟨front, opening, rest⟩
  · exact eq_or_collides_of_opening opening rest
  · rcases eq_or_collides_of_opening opening rest with ⟨rfl, rfl⟩ | collides
    · exact .inl ⟨rfl, rfl⟩
    · exact .inr collides.symm

/-- Colliding names have an identifier in common. -/
theorem Collides.exists_spell_eq (collides : Collides left right) :
    ∃ first second : Identifier, first.spell left = second.spell right := by
  rcases collides with ⟨frame, member, rfl⟩ | ⟨lock, member, core, rfl, rfl⟩
  · rcases Identifier.exists_of_mem_wrappings member with ⟨first, second, opening, ending⟩
    exact ⟨first, second, by simp [Identifier.spell, opening, ending, String.append_assoc]⟩
  · rcases Identifier.exists_of_mem_interlockings member with ⟨first, second, opening, ending⟩
    exact ⟨first, second, by simp [Identifier.spell, opening, ending, String.append_assoc]⟩

end Spelled

/-- Two names have an identifier in common exactly where they are the same or collide. -/
theorem exists_spell_eq_iff {left right : String} :
    (∃ first second : Identifier, first.spell left = second.spell right) ↔
      left = right ∨ Collides left right ∨ Collides right left := by
  constructor
  · rintro ⟨first, second, same⟩
    exact (eq_or_collides_of_spell_eq same).imp_left And.right
  · rintro (rfl | collides | collides)
    · exact ⟨.serverType, .serverType, rfl⟩
    · exact collides.exists_spell_eq
    · rcases collides.exists_spell_eq with ⟨first, second, same⟩
      exact ⟨second, first, same.symm⟩

/-- The identifiers of one name are all different. -/
theorem eq_of_spell_eq {first second : Identifier} {name : String}
    (same : first.spell name = second.spell name) : first = second := by
  rcases eq_or_collides_of_spell_eq same with ⟨same, _⟩ | collides | collides
  · exact same
  · exact absurd collides (not_collides_self name)
  · exact absurd collides (not_collides_self name)

/-! ## Many names -/

/-- The identifiers of a name. -/
def spellings (name : String) : List String :=
  Identifier.all.map (·.spell name)

theorem nodup_spellings (name : String) : (spellings name).Nodup := by
  have distinct : Identifier.all.Nodup := by decide
  exact distinct.map fun _ _ => eq_of_spell_eq

theorem disjoint_spellings_iff {left right : String} :
    (spellings left).Disjoint (spellings right) ↔
      left ≠ right ∧ ¬ Collides left right ∧ ¬ Collides right left := by
  rw [← not_or, ← not_or, ← exists_spell_eq_iff]
  simp only [List.Disjoint, spellings, List.mem_map, Identifier.mem_all, true_and]
  constructor
  · rintro disjoint ⟨first, second, same⟩
    exact disjoint ⟨first, rfl⟩ ⟨second, same.symm⟩
  · rintro none _ ⟨first, rfl⟩ ⟨second, same⟩
    exact none ⟨first, second, same.symm⟩

/-- The identifiers of some names are all different exactly where the names are and no two of them
collide. -/
theorem nodup_flatMap_spellings_iff {names : List String} :
    (names.flatMap spellings).Nodup ↔
      names.Nodup ∧ names.Pairwise fun left right =>
        ¬ Collides left right ∧ ¬ Collides right left := by
  rw [List.nodup_flatMap, and_iff_right fun name _ => nodup_spellings name, List.Nodup,
    ← List.pairwise_and_iff]
  exact List.Pairwise.iff fun _ _ => disjoint_spellings_iff

end RpcStubs.Stub
