import RpcStubs.Proofs.Go.Name
import RpcStubs.Proofs.Stub.Collision

/-!
# Identifiers of one service

The words in front of a service name are exported, and so are those behind it where there are none
in front. So an identifier is exported unless it begins with a service name that is not
(`isExported_spell_iff`), and the eight identifiers of one service, which are all different, can be
seen outside of their package (`distinct_and_exported_spellings`).
-/

namespace RpcStubs.Stub

namespace Identifier

theorem isExported_opening {identifier : Identifier} (opened : identifier.opening ≠ "") :
    Go.isExported identifier.opening = true := by
  revert opened
  cases identifier <;> decide

theorem isExported_ending {identifier : Identifier} (unopened : identifier.opening = "") :
    Go.isExported identifier.ending = true := by
  revert unopened
  cases identifier <;> decide

/-- An identifier is exported where words stand in front of the service name, and otherwise where
that name is empty or exported. -/
theorem isExported_spell_iff {identifier : Identifier} {service : String} :
    Go.isExported (identifier.spell service) = true ↔
      identifier.opening ≠ "" ∨ service = "" ∨ Go.isExported service = true := by
  by_cases unopened : identifier.opening = ""
  · have spelled : identifier.spell service = service ++ identifier.ending := by
      rw [spell, unopened, String.empty_append]
    rw [spelled, or_iff_right (not_not_intro unopened)]
    by_cases unnamed : service = ""
    · rw [unnamed, String.empty_append]
      exact iff_of_true (isExported_ending unopened) (.inl rfl)
    · rw [Go.isExported_append unnamed, or_iff_right unnamed]
  · rw [spell, String.append_assoc, Go.isExported_append unopened]
    exact iff_of_true (isExported_opening unopened) (.inl unopened)

end Identifier

/-- Whatever a service is called, the eight identifiers made from the exported form of its name are
all different and all exported. -/
theorem distinct_and_exported_spellings (raw : String) :
    (Identifier.all.map (·.spell (Go.exported raw))).Nodup ∧
      ∀ identifier : Identifier, Go.isExported (identifier.spell (Go.exported raw)) = true := by
  refine ⟨nodup_spellings (Go.exported raw), fun identifier => ?_⟩
  rw [Identifier.isExported_spell_iff, Go.isExported_exported_iff]
  by_cases empty : raw = ""
  · exact .inr (.inl (by rw [empty, Go.exported_empty]))
  · exact .inr (.inr empty)

end RpcStubs.Stub
