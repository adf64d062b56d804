import RpcStubs.Json.Skip
import RpcStubs.Proofs.Json.Tokens

/-!
# Skipping a written tree

The walk that passes over a value ends right behind it. The list of open containers takes the place
of the recursion, so the statement is about every such list: behind a value the walk goes on with the
container the value stands in (`run_lexemes`), and it stops if there is none (`skipValue_lexemes`).
-/

namespace RpcStubs.Json

namespace Skip

/-- The walk behind a value: it goes on in the innermost open container, or stops. -/
def proceed (frames : List Frame) (tokens : Tokens) : Except Fault Tokens :=
  match afterValue frames with
  | none => .ok tokens
  | some (stage, frames) => run stage frames tokens

/-- What comes next inside a container, at its front or behind a value. -/
def inside (first : Bool) : Stage :=
  if first then .first else .next

/-- At the front of a list, a value is passed over like any other. -/
theorem run_first_lexemes {tree : Tree} {tokens rest : Tokens}
    (spells : Spells tree.lexemes tokens rest) (frames : List Frame) :
    run .first (.list :: frames) tokens = run .value (.list :: frames) tokens := by
  cases tree <;> (cases spells with | token first others => cases first; rfl)

/-- A value without parts is passed over in one step. -/
theorem run_single {lexeme : Lexeme} {tokens rest : Tokens} (spells : Spells [lexeme] tokens rest)
    {frames : List Frame}
    (passes : ∀ kind, lexeme.Matches kind → step .value frames kind = .ok (afterValue frames)) :
    run .value frames tokens = proceed frames rest := by
  cases spells with
  | token first others =>
      cases others
      rw [run, passes _ first, proceed]
      cases afterValue frames <;> rfl

-- The recursion is over the tree, where the walk itself only sees one token at a time; what ties
-- the two together is that `proceed` pops exactly the container that was opened last.
mutual

/-- The walk passes over a tree and goes on behind it. -/
theorem run_lexemes (tree : Tree) {tokens rest : Tokens}
    (spells : Spells tree.lexemes tokens rest) (frames : List Frame) :
    run .value frames tokens = proceed frames rest := by
  cases tree with
  | null => exact run_single spells (by rintro _ ⟨⟩; rfl)
  | boolean value => exact run_single spells (by rintro _ ⟨⟩; rfl)
  | number parts => exact run_single spells (by rintro _ ⟨⟩; rfl)
  | text value => exact run_single spells (by rintro _ ⟨⟩; rfl)
  | list items =>
      cases spells with
      | token opening others =>
          cases opening
          exact run_itemLexemes true items others frames
  | object members =>
      cases spells with
      | token opening others =>
          cases opening
          exact run_memberLexemes true members others frames

theorem run_itemLexemes (first : Bool) (items : List Tree) {tokens rest : Tokens}
    (spells : Spells (Tree.itemLexemes first items) tokens rest) (frames : List Frame) :
    run (inside first) (.list :: frames) tokens = proceed frames rest := by
  cases items with
  | nil =>
      cases spells with
      | token closing others =>
          cases closing
          cases others
          cases first <;> cases frames <;> rfl
  | cons item items =>
      rcases spells.item with ⟨front, behind, separator, ofItem, others⟩
      have entered : run (inside first) (.list :: frames) tokens
          = run .value (.list :: frames) front := by
        rcases separator.separator with ⟨rfl, rfl⟩ | ⟨rfl, start, stop, rfl⟩
        · exact run_first_lexemes ofItem frames
        · rfl
      calc run (inside first) (.list :: frames) tokens
          = run .value (.list :: frames) front := entered
        _ = run .next (.list :: frames) behind := run_lexemes item ofItem (.list :: frames)
        _ = proceed frames rest := run_itemLexemes false items others frames

theorem run_memberLexemes (first : Bool) (members : List (String × Tree)) {tokens rest : Tokens}
    (spells : Spells (Tree.memberLexemes first members) tokens rest) (frames : List Frame) :
    run (inside first) (.object :: frames) tokens = proceed frames rest := by
  cases members with
  | nil =>
      cases spells with
      | token closing others =>
          cases closing
          cases others
          cases first <;> cases frames <;> rfl
  | cons member members =>
      rcases member with ⟨key, value⟩
      rcases spells.member with ⟨start, stop, later, behind, separator, ofValue, others⟩
      have entered : run (inside first) (.object :: frames) tokens
          = run .colon (.object :: frames) later := by
        rcases separator.separator with ⟨rfl, rfl⟩ | ⟨rfl, _, _, rfl⟩ <;> rfl
      rw [entered]
      cases ofValue with
      | token matched ofValue =>
          cases matched
          exact (run_lexemes value ofValue (.object :: frames)).trans
            (run_memberLexemes false members others frames)

end

end Skip

/-- Skipping a value ends right behind it. -/
theorem skipValue_lexemes {tree : Tree} {tokens rest : Tokens}
    (spells : Spells tree.lexemes tokens rest) : skipValue tokens = .ok rest :=
  Skip.run_lexemes tree spells []

end RpcStubs.Json
