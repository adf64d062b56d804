/-!
# Steps that may fail

When a chain of steps that may fail gives a value, or a step whose value or failure is told
otherwise.
-/

namespace RpcStubs

variable {ε δ α β : Type}

theorem bind_eq_ok_iff {result : Except ε α} {next : α → Except ε β} {value : β} :
    (result >>= next) = .ok value ↔ ∃ middle, result = .ok middle ∧ next middle = .ok value := by
  cases result <;> simp [bind, Except.bind]

theorem map_eq_ok_iff {f : α → β} {result : Except ε α} {value : β} :
    result.map f = .ok value ↔ ∃ argument, result = .ok argument ∧ f argument = value := by
  cases result <;> simp [Except.map]

theorem mapError_eq_ok_iff {tell : ε → δ} {result : Except ε α} {value : α} :
    result.mapError tell = .ok value ↔ result = .ok value := by
  cases result with
  | error inner => exact ⟨nofun, nofun⟩
  | ok held =>
      show Except.ok held = _ ↔ _
      rw [Except.ok.injEq, Except.ok.injEq]

theorem mapError_eq_error_iff {tell : ε → δ} {result : Except ε α} {failure : δ} :
    result.mapError tell = .error failure ↔
      ∃ inner, result = .error inner ∧ tell inner = failure := by
  cases result with
  | error inner =>
      show Except.error (tell inner) = _ ↔ _
      simp
  | ok held => exact ⟨nofun, nofun⟩

end RpcStubs
