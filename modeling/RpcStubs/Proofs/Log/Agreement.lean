import RpcStubs.Proofs.Log.Failure

/-!
# Agreement of two computations

Two computations agree when both end in values that belong together, or both fail and the second
tells the failure of the first in its own words. Chains of agreeing parts agree (`Agree.bind`), and
so do loops over two lists of which the second is the first with every item changed
(`agree_thread`).
-/

namespace RpcStubs.Log.Journaled

variable {ε δ α β γ κ : Type}

/-- Two outcomes agree: values in a relation, or an error and the same error told otherwise. -/
inductive Agree (tell : ε → δ) (related : α → β → Prop) : Except ε α → Except δ β → Prop where
  | ok {value : α} {other : β} (both : related value other) :
      Agree tell related (.ok value) (.ok other)
  | error (error : ε) : Agree tell related (.error error) (.error (tell error))

variable {tell : ε → δ}

/-- Outcomes agree up to equality when the second is the first with its error told otherwise. -/
theorem agree_eq_iff {first : Except ε α} {second : Except δ α} :
    Agree tell Eq first second ↔ second = first.mapError tell := by
  constructor
  · rintro (rfl | error)
    · rfl
    · rfl
  · rintro rfl
    cases first with
    | ok value => exact .ok rfl
    | error error => exact .error error

theorem Agree.bind {related : α → β → Prop} {answers : γ → κ → Prop}
    {first : Journaled ε α} {second : Journaled δ β}
    {next : α → Journaled ε γ} {other : β → Journaled δ κ}
    (begins : Agree tell related first.outcome second.outcome)
    (goesOn : ∀ value held, related value held →
      Agree tell answers (next value).outcome (other held).outcome) :
    Agree tell answers (first >>= next).outcome (second >>= other).outcome := by
  rw [outcome_bind, outcome_bind]
  generalize first.outcome = earlier at begins
  generalize second.outcome = later at begins
  cases begins with
  | ok both => exact goesOn _ _ both
  | error error => exact .error error

section Thread

variable {σ τ : Type}

/-- Two loops hand on the same values, beside states in a relation. -/
def SameBeside (alike : σ → τ → Prop) (first : α × σ) (second : α × τ) : Prop :=
  second.1 = first.1 ∧ alike first.2 second.2

/-- Where the steps with an item and with the changed item agree from states that are alike, so do
the loops over all items and over all changed items. -/
theorem agree_thread {alike : σ → τ → Prop} {change : α → β}
    {step : α → σ → Journaled ε (γ × σ)} {other : β → τ → Journaled δ (γ × τ)} {items : List α}
    (steps : ∀ item ∈ items, ∀ state held, alike state held →
      Agree tell (SameBeside alike) (step item state).outcome (other (change item) held).outcome)
    {state : σ} {held : τ} (start : alike state held) :
    Agree tell (SameBeside alike) (thread step items state).outcome
      (thread other (items.map change) held).outcome := by
  induction items generalizing state held with
  | nil => exact .ok ⟨rfl, start⟩
  | cons item rest ih =>
      rcases List.forall_mem_cons.mp steps with ⟨firstStep, restSteps⟩
      refine Agree.bind (firstStep state held start) ?_
      rintro ⟨first, middle⟩ ⟨_, heldMiddle⟩ ⟨rfl, middleAlike⟩
      refine Agree.bind (ih restSteps middleAlike) ?_
      rintro ⟨later, final⟩ ⟨_, heldFinal⟩ ⟨rfl, finalAlike⟩
      exact .ok ⟨rfl, finalAlike⟩

end Thread

end RpcStubs.Log.Journaled
