import RpcStubs.Log.Journal

/-!
# Failures of journaled computations

What a computation fails with does not depend on its journal. A chain fails with the first failure
on its way (`failure?_bind`), and so does a loop over a list (`failure?_thread`).
-/

namespace RpcStubs.Log.Journaled

variable {ε α β : Type}

/-- The error that a computation ends in, if it does not end in a value. -/
def failure? (inner : Journaled ε α) : Option ε :=
  match inner.outcome with
  | .ok _ => none
  | .error error => some error

theorem failure?_eq_some_iff {inner : Journaled ε α} {error : ε} :
    inner.failure? = some error ↔ inner.outcome = .error error := by
  unfold failure?
  cases inner.outcome <;> simp

theorem failure?_eq_none_iff {inner : Journaled ε α} :
    inner.failure? = none ↔ ∃ value, inner.outcome = .ok value := by
  unfold failure?
  cases inner.outcome <;> simp

theorem failure?_congr {first second : Journaled ε α} (same : first.outcome = second.outcome) :
    first.failure? = second.failure? := by
  rw [failure?, failure?, same]

@[simp]
theorem failure?_within (span : Span) (inner : Journaled ε α) :
    (within span inner).failure? = inner.failure? :=
  failure?_congr (outcome_within span inner)

@[simp]
theorem failure?_noteFailure (inner : Journaled ε α) (events : ε → List Event) :
    (inner.noteFailure events).failure? = inner.failure? :=
  failure?_congr (outcome_noteFailure inner events)

/-- The outcome of a chain depends on the rest of it only through outcomes. -/
theorem outcome_bind_congr {first : Journaled ε α} {next other : α → Journaled ε β}
    (same : ∀ value, (next value).outcome = (other value).outcome) :
    (first >>= next).outcome = (first >>= other).outcome := by
  simp only [outcome_bind, same]

/-- A chain fails with the failure of its first part, and else with that of the rest, provided this
is the same for every value that the first part may have given. -/
theorem failure?_bind {first : Journaled ε α} {next : α → Journaled ε β} {later : Option ε}
    (rest : ∀ value, first.outcome = .ok value → (next value).failure? = later) :
    (first >>= next).failure? = first.failure?.or later := by
  cases ended : first.outcome with
  | error error =>
      have failed := failure?_eq_some_iff.mpr ended
      rw [failed, Option.some_or, failure?_eq_some_iff, outcome_bind, ended]
      rfl
  | ok value =>
      have fine := failure?_eq_none_iff.mpr ⟨value, ended⟩
      rw [fine, Option.none_or, ← rest value ended]
      apply failure?_congr
      rw [outcome_bind, ended]
      rfl

/-- A chain whose rest never fails fails as its first part does. -/
theorem failure?_bind_of_fine {first : Journaled ε α} {next : α → Journaled ε β}
    (fine : ∀ value, (next value).failure? = none) : (first >>= next).failure? = first.failure? := by
  rw [failure?_bind fun value _ => fine value, Option.or_none]

/-- A chain fails where its first part does or the rest does behind it. -/
theorem outcome_bind_eq_error_iff {first : Journaled ε α} {next : α → Journaled ε β} {error : ε} :
    (first >>= next).outcome = .error error ↔
      first.outcome = .error error
        ∨ ∃ value, first.outcome = .ok value ∧ (next value).outcome = .error error := by
  rw [outcome_bind]
  cases first.outcome with
  | error failure => simp [bind, Except.bind]
  | ok value => simp [bind, Except.bind]

/-- A chain gives a value exactly where both parts do. -/
theorem outcome_bind_eq_ok_iff {first : Journaled ε α} {next : α → Journaled ε β} {result : β} :
    (first >>= next).outcome = .ok result ↔
      ∃ value, first.outcome = .ok value ∧ (next value).outcome = .ok result := by
  rw [outcome_bind]
  cases first.outcome with
  | error error => simp [bind, Except.bind]
  | ok value => simp [bind, Except.bind]

/-! ## Loops -/

section Thread

variable {σ : Type}

/-- Do a step with each item of a list in turn, handing a state on from step to step. -/
def thread (step : α → σ → Journaled ε (β × σ)) : List α → σ → Journaled ε (List β × σ)
  | [], state => return ([], state)
  | item :: rest, state => do
      let (first, state) ← step item state
      let (later, state) ← thread step rest state
      return (first :: later, state)

/-- Where the failure of a step depends on its item alone, a loop fails with the first of these. -/
theorem failure?_thread {step : α → σ → Journaled ε (β × σ)} {failure : α → Option ε}
    (fails : ∀ item state, (step item state).failure? = failure item) (items : List α)
    (state : σ) : (thread step items state).failure? = items.findSome? failure := by
  induction items generalizing state with
  | nil => rfl
  | cons item rest ih =>
      have restFails : ∀ first : β × σ, (do
          let (later, state) ← thread step rest first.2
          return (first.1 :: later, state) : Journaled ε (List β × σ)).failure? =
            rest.findSome? failure := by
        intro first
        rw [← ih first.2]
        exact failure?_bind_of_fine fun _ => rfl
      rw [thread, failure?_bind fun first _ => restFails first, fails, List.findSome?_cons]
      cases failure item <;> rfl

/-- A loop gives values exactly by a first step that does and a loop over the rest that does. -/
theorem outcome_thread_cons_eq_ok_iff {step : α → σ → Journaled ε (β × σ)} {item : α}
    {rest : List α} {state final : σ} {results : List β} :
    (thread step (item :: rest) state).outcome = .ok (results, final) ↔
      ∃ first middle later, (step item state).outcome = .ok (first, middle)
        ∧ (thread step rest middle).outcome = .ok (later, final) ∧ results = first :: later := by
  rw [thread, outcome_bind_eq_ok_iff]
  constructor
  · rintro ⟨⟨first, middle⟩, firstOk, restOk⟩
    rcases outcome_bind_eq_ok_iff.mp restOk with ⟨⟨later, _⟩, laterOk, answered⟩
    rcases Prod.mk.inj (Except.ok.inj answered) with ⟨rfl, rfl⟩
    exact ⟨first, middle, later, firstOk, laterOk, rfl⟩
  · rintro ⟨first, middle, later, firstOk, laterOk, rfl⟩
    exact ⟨⟨first, middle⟩, firstOk, outcome_bind_eq_ok_iff.mpr ⟨⟨later, final⟩, laterOk, rfl⟩⟩

/-- A loop over items and then others gives values exactly by a loop over the first items and, from
the state that this leaves, a loop over the others. -/
theorem outcome_thread_append_eq_ok_iff {step : α → σ → Journaled ε (β × σ)}
    {earlier later : List α} {state final : σ} {results : List β} :
    (thread step (earlier ++ later) state).outcome = .ok (results, final) ↔
      ∃ first middle others, (thread step earlier state).outcome = .ok (first, middle)
        ∧ (thread step later middle).outcome = .ok (others, final)
        ∧ results = first ++ others := by
  induction earlier generalizing state results with
  | nil =>
      constructor
      · intro ok
        exact ⟨[], state, results, rfl, ok, rfl⟩
      · rintro ⟨_, _, others, nothing, ok, rfl⟩
        rcases Prod.mk.inj (Except.ok.inj nothing) with ⟨rfl, rfl⟩
        exact ok
  | cons item rest ih =>
      simp only [List.cons_append, outcome_thread_cons_eq_ok_iff, ih]
      constructor
      · rintro ⟨first, middle, _, firstOk, ⟨behind, state, others, restOk, laterOk, rfl⟩, rfl⟩
        exact ⟨first :: behind, state, others, ⟨first, middle, behind, firstOk, restOk, rfl⟩,
          laterOk, rfl⟩
      · rintro ⟨_, state, others, ⟨first, middle, behind, firstOk, restOk, rfl⟩, laterOk, rfl⟩
        exact ⟨first, middle, behind ++ others, firstOk,
          ⟨behind, state, others, restOk, laterOk, rfl⟩, rfl⟩

end Thread

end RpcStubs.Log.Journaled
