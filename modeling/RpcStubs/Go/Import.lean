import RpcStubs.Go.ImportPath

/-!
# Imports

An import pairs a path with the name its package goes by in one file. The name is written only where
the path does not already end in it; either way the file binds the same name (`boundName_alias?`).
-/

namespace RpcStubs.Go

/-- An import of a generated file: a path, and the name its package goes by there. -/
structure Import where
  path : String
  name : String
deriving Repr, DecidableEq, Inhabited

namespace Import

/-- Whether the package name differs from the last element of the path, and so must be written. -/
def needsAlias (item : Import) : Bool :=
  lastElement item.path != item.name

/-- The name to write in front of the path, if one must be written. -/
def alias? (item : Import) : Option String :=
  if item.needsAlias then some item.name else none

/-- The name a path is bound to by what is written in front of it: that, or its last element. -/
def boundName (path : String) (written : Option String) : String :=
  written.getD (lastElement path)

/-- What is written binds the package to the name of the import. -/
theorem boundName_alias? (item : Import) : boundName item.path item.alias? = item.name := by
  unfold boundName alias? needsAlias
  by_cases same : lastElement item.path = item.name <;> simp [same]

/-! ## Order -/

/-- Imports are ordered by path, those of one path by name. -/
instance : LE Import where
  le first second :=
    first.path < second.path ∨ first.path = second.path ∧ first.name ≤ second.name

instance : LT Import where
  lt first second :=
    first.path < second.path ∨ first.path = second.path ∧ first.name < second.name

theorem le_iff {first second : Import} :
    first ≤ second ↔
      first.path < second.path ∨ first.path = second.path ∧ first.name ≤ second.name :=
  Iff.rfl

theorem lt_iff {first second : Import} :
    first < second ↔
      first.path < second.path ∨ first.path = second.path ∧ first.name < second.name :=
  Iff.rfl

instance : DecidableLT Import := fun first second =>
  inferInstanceAs (Decidable
    (first.path < second.path ∨ first.path = second.path ∧ first.name < second.name))

instance : Std.IsLinearOrder Import where
  le_refl item := .inr ⟨rfl, Std.le_refl _⟩
  le_trans first second third := by
    rintro (path₁ | ⟨same₁, name₁⟩) (path₂ | ⟨same₂, name₂⟩)
    · exact .inl (Std.lt_trans path₁ path₂)
    · exact .inl (same₂ ▸ path₁)
    · exact .inl (same₁ ▸ path₂)
    · exact .inr ⟨same₁.trans same₂, Std.le_trans name₁ name₂⟩
  le_antisymm first second := by
    rintro (path₁ | ⟨same₁, name₁⟩) (path₂ | ⟨same₂, name₂⟩)
    · exact absurd (Std.lt_trans path₁ path₂) Std.lt_irrefl
    · exact absurd (same₂ ▸ path₁) Std.lt_irrefl
    · exact absurd (same₁ ▸ path₂) Std.lt_irrefl
    · cases first
      cases second
      exact congr (congrArg Import.mk same₁) (Std.le_antisymm name₁ name₂)
  le_total first second := by
    rcases String.le_total first.path second.path with before | after
    · by_cases same : first.path = second.path
      · rcases String.le_total first.name second.name with name | name
        · exact .inl (.inr ⟨same, name⟩)
        · exact .inr (.inr ⟨same.symm, name⟩)
      · exact .inl (.inl (Std.lt_of_le_of_ne before same))
    · by_cases same : second.path = first.path
      · rcases String.le_total first.name second.name with name | name
        · exact .inl (.inr ⟨same.symm, name⟩)
        · exact .inr (.inr ⟨same, name⟩)
      · exact .inr (.inl (Std.lt_of_le_of_ne after same))

instance : Std.LawfulOrderLT Import where
  lt_iff first second := by
    simp only [lt_iff, le_iff]
    constructor
    · rintro (path | ⟨same, name⟩)
      · refine ⟨.inl path, ?_⟩
        rintro (back | ⟨same, _⟩)
        · exact absurd (Std.lt_trans path back) Std.lt_irrefl
        · exact absurd (same ▸ path) Std.lt_irrefl
      · refine ⟨.inr ⟨same, Std.le_of_lt name⟩, ?_⟩
        rintro (back | ⟨_, back⟩)
        · exact absurd (same ▸ back) Std.lt_irrefl
        · exact Std.not_le.mpr name back
    · rintro ⟨path | ⟨same, name⟩, notBack⟩
      · exact .inl path
      · refine .inr ⟨same, ?_⟩
        exact Std.not_le.mp fun back => notBack (.inr ⟨same.symm, back⟩)

end Import

end RpcStubs.Go
