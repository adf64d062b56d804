import RpcStubs.Proofs.Log.Failure

/-!
# Warnings in a journal

The warnings of a computation are the events of its journal at that level. A chain warns as its parts
do, and a loop that gives values warns as its steps do, one after the other (`warnings_thread`).
-/

namespace RpcStubs.Log

/-- The event that an entry holds, if it is not the beginning of a span. -/
def Entry.event? : Entry → Option Event
  | opened _ => none
  | event _ e => some e

/-- The warnings among the entries of a journal, in order. -/
def warnings (journal : List Entry) : List Event :=
  (journal.filterMap Entry.event?).filter fun event => event.level = .warn

theorem warnings_append (earlier later : List Entry) :
    warnings (earlier ++ later) = warnings earlier ++ warnings later := by
  rw [warnings, List.filterMap_append, List.filter_append, ← warnings, ← warnings]

theorem warnings_map_event (span : Option Span) (events : List Event) :
    warnings (events.map (.event span)) = events.filter fun event => event.level = .warn := by
  have kept : (Entry.event? ∘ Entry.event span) = some := rfl
  rw [warnings, List.filterMap_map, kept, List.filterMap_some]

namespace Journaled

variable {ε α β : Type}

theorem journal_bind_of_ok {first : Journaled ε α} {next : α → Journaled ε β} {value : α}
    (ok : first.outcome = .ok value) :
    (first >>= next).journal = first.journal ++ (next value).journal := by
  rw [journal_bind, ok]

/-- A span does not change what is warned of inside. -/
theorem warnings_within (span : Span) (inner : Journaled ε α) :
    warnings (within span inner).journal = warnings inner.journal := by
  have kept : Entry.event? ∘ Entry.inside span = Entry.event? := by
    funext entry
    rcases entry with _ | ⟨_ | _, _⟩ <;> rfl
  have opened : Entry.event? (.opened span) = none := rfl
  rw [within, warnings, List.filterMap_cons_none opened, List.filterMap_map, kept, warnings]

variable {σ : Type}

/-- Where the warnings of a step that gives a value depend on its item alone, a loop that gives
values has these warnings, item by item. -/
theorem warnings_thread {step : α → σ → Journaled ε (β × σ)} {warned : α → List Event}
    (warns : ∀ item state result, (step item state).outcome = .ok result →
      warnings (step item state).journal = warned item)
    {items : List α} {state : σ} {result : List β × σ}
    (ok : (thread step items state).outcome = .ok result) :
    warnings (thread step items state).journal = items.flatMap warned := by
  induction items generalizing state result with
  | nil => rfl
  | cons item rest ih =>
      rcases outcome_thread_cons_eq_ok_iff.mp ok with ⟨first, middle, later, firstOk, laterOk, _⟩
      rw [thread, journal_bind_of_ok firstOk, journal_bind_of_ok laterOk, warnings_append,
        warnings_append, warns _ _ _ firstOk, ih laterOk, List.flatMap_cons]
      exact congrArg (warned item ++ ·) (List.append_nil _)

end Journaled

end RpcStubs.Log
