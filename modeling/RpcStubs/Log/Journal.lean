import RpcStubs.Log.Event

/-!
# Journals

A computation that logs gives its answer together with a journal of what happened, kept also when it
fails. Chaining computations chains their journals, and the answer is that of the same computations
without journals (`outcome_bind`).
-/

namespace RpcStubs.Log

/-- A line of a journal. -/
inductive Entry where
  /-- A plugin begins with a file. -/
  | opened (span : Span)
  /-- Something happens, possibly while a plugin is at work on a file. -/
  | event (span : Option Span) (event : Event)
deriving Repr, DecidableEq, Inhabited

/-- The entry with its event inside a span; a span inside a span stays what it is. -/
def Entry.inside (span : Span) : Entry → Entry
  | event none e => event (some span) e
  | entry => entry

/-- The outcome of a computation and the journal of its events. -/
structure Journaled (ε α : Type) where
  journal : List Entry
  outcome : Except ε α

namespace Journaled

variable {ε α β : Type}

/-- A computation that only gives a value. -/
def done (value : α) : Journaled ε α :=
  ⟨[], .ok value⟩

/-- A computation that only fails. -/
def fail (error : ε) : Journaled ε α :=
  ⟨[], .error error⟩

/-- An outcome reached without an event. -/
def ofExcept (outcome : Except ε α) : Journaled ε α :=
  ⟨[], outcome⟩

/-- Note some events. -/
def note (events : List Event) : Journaled ε Unit :=
  ⟨events.map (.event none), .ok ()⟩

/-- Go on with the value of a computation, if it has one. -/
def andThen (first : Journaled ε α) (next : α → Journaled ε β) : Journaled ε β :=
  match first.outcome with
  | .ok value => ⟨first.journal ++ (next value).journal, (next value).outcome⟩
  | .error error => ⟨first.journal, .error error⟩

instance : Monad (Journaled ε) where
  pure := done
  bind := andThen

/-- Do a computation inside a span. -/
def within (span : Span) (inner : Journaled ε α) : Journaled ε α :=
  ⟨.opened span :: inner.journal.map (Entry.inside span), inner.outcome⟩

/-- Note some events if a computation fails. -/
def noteFailure (inner : Journaled ε α) (events : ε → List Event) : Journaled ε α :=
  match inner.outcome with
  | .ok _ => inner
  | .error error => ⟨inner.journal ++ (events error).map (.event none), .error error⟩

/-- The same computation with its failure told otherwise. -/
def mapError {δ : Type} (tell : ε → δ) (inner : Journaled ε α) : Journaled δ α :=
  ⟨inner.journal, inner.outcome.mapError tell⟩

@[simp]
theorem outcome_mapError {δ : Type} (tell : ε → δ) (inner : Journaled ε α) :
    (inner.mapError tell).outcome = inner.outcome.mapError tell :=
  rfl

@[simp]
theorem outcome_noteFailure (inner : Journaled ε α) (events : ε → List Event) :
    (inner.noteFailure events).outcome = inner.outcome := by
  unfold noteFailure
  cases failure : inner.outcome <;> simp [failure]

@[simp]
theorem outcome_pure (value : α) : (pure value : Journaled ε α).outcome = .ok value :=
  rfl

@[simp]
theorem outcome_ofExcept (outcome : Except ε α) : (ofExcept outcome).outcome = outcome :=
  rfl

@[simp]
theorem outcome_note (events : List Event) : (note events : Journaled ε Unit).outcome = .ok () :=
  rfl

@[simp]
theorem outcome_within (span : Span) (inner : Journaled ε α) :
    (within span inner).outcome = inner.outcome :=
  rfl

/-- The outcome of a chain is the chain of the outcomes. -/
@[simp]
theorem outcome_bind (first : Journaled ε α) (next : α → Journaled ε β) :
    (first >>= next).outcome = first.outcome >>= fun value => (next value).outcome := by
  show (andThen first next).outcome = _
  unfold andThen
  cases first.outcome <;> rfl

/-- A failing computation has the journal up to its failure, a chain the journals one after the
other. -/
theorem journal_bind (first : Journaled ε α) (next : α → Journaled ε β) :
    (first >>= next).journal =
      match first.outcome with
      | .ok value => first.journal ++ (next value).journal
      | .error _ => first.journal := by
  show (andThen first next).journal = _
  unfold andThen
  cases first.outcome <;> rfl

end Journaled

end RpcStubs.Log
