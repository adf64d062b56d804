import RpcStubs.Proofs.Symbol.Resolution

/-!
# Runs of a scope

A scope lives through a run of calls, reservations and resolutions in any order, each resolution
with a table of its own. What holds of one step is carried to runs: the names, uses and imports at
the end are accounted for by the answers on the way, and the calls that failed might as well not
have been made (`run_invariant`).
-/

namespace RpcStubs.ImportScope

/-- Something that is asked of a scope. -/
inductive Call where
  | reserve (path : String)
  | resolve (table : SymbolTable) (ref : String)
deriving DecidableEq

/-- What a scope answers. -/
inductive Answer where
  | reserved
  | resolved (printed : ResolvedType)
  | missing (symbol : MissingSymbol)
deriving Repr, DecidableEq

/-- A call with its answer. -/
structure Step where
  call : Call
  answer : Answer
deriving DecidableEq

/-- Whether a step is a resolution that found no type. -/
def Step.failed (step : Step) : Bool :=
  match step.answer with
  | .missing _ => true
  | _ => false

/-- The answer to a call. -/
def answer (scope : ImportScope) : Call → Answer
  | .reserve _ => .reserved
  | .resolve table ref =>
      match scope.resolve table ref with
      | .ok (printed, _) => .resolved printed
      | .error symbol => .missing symbol

/-- The scope after a call; one that fails leaves it as it is. -/
def next (scope : ImportScope) : Call → ImportScope
  | .reserve path => scope.reserve path
  | .resolve table ref =>
      match scope.resolve table ref with
      | .ok (_, later) => later
      | .error _ => scope

/-- The scope after a run. -/
def after (scope : ImportScope) (calls : List Call) : ImportScope :=
  calls.foldl next scope

/-- The steps of a run. -/
def trace (scope : ImportScope) : List Call → List Step
  | [] => []
  | call :: rest => ⟨call, scope.answer call⟩ :: (scope.next call).trace rest

/-! ## One step -/

/-- What one call can lead to. -/
inductive Performs (scope : ImportScope) : Call → Answer → ImportScope → Prop where
  | reserve (path : String) : Performs scope (.reserve path) .reserved (scope.reserve path)
  | resolve {table : SymbolTable} {ref : String} {type : GoType} {printed : ResolvedType}
      {later : ImportScope} (found : table.find? ref = some type)
      (way : scope.Resolution ref type printed later) :
      Performs scope (.resolve table ref) (.resolved printed) later
  | fail {table : SymbolTable} {ref : String} (absent : table.find? ref = none) :
      Performs scope (.resolve table ref) (.missing ⟨ref⟩) scope

theorem performs (scope : ImportScope) (call : Call) :
    scope.Performs call (scope.answer call) (scope.next call) := by
  cases call with
  | reserve path => exact .reserve path
  | resolve table ref =>
      cases outcome : scope.resolve table ref with
      | ok result =>
          rcases resolve_eq_ok_iff.mp outcome with ⟨type, found, way⟩
          simpa only [answer, next, outcome] using .resolve found way
      | error symbol =>
          rcases resolve_eq_error_iff.mp outcome with ⟨absent, rfl⟩
          simpa only [answer, next, outcome] using .fail absent

namespace Performs

variable {scope later : ImportScope} {call : Call} {answer : Answer}

theorem growsTo (performed : scope.Performs call answer later) : scope.GrowsTo later := by
  cases performed with
  | reserve path => exact scope.growsTo_reserve path
  | resolve found way => exact way.growsTo
  | fail absent => exact .refl scope

theorem isUsed_iff (performed : scope.Performs call answer later) (ref : String) :
    later.isUsed ref = true ↔
      scope.isUsed ref = true ∨ ∃ table printed, call = .resolve table ref
        ∧ answer = .resolved printed := by
  cases performed with
  | reserve path => simp
  | resolve found way =>
      rw [way.isUsed_iff, or_comm]
      apply or_congr_right
      constructor
      · rintro rfl
        exact ⟨_, _, rfl, rfl⟩
      · rintro ⟨_, _, sameCall, _⟩
        exact (Call.resolve.inj sameCall).2.symm
  | fail absent => simp

theorem mem_imports_iff (performed : scope.Performs call answer later) (item : Go.Import) :
    item ∈ SortedSet.toList later.imports ↔
      item ∈ SortedSet.toList scope.imports ∨ ∃ table ref printed, call = .resolve table ref
        ∧ answer = .resolved printed ∧ printed.origin = some item := by
  cases performed with
  | reserve path => simp
  | resolve found way => simp [way.mem_imports_iff, or_comm]
  | fail absent => simp

end Performs

/-! ## Runs -/

@[simp]
theorem after_nil (scope : ImportScope) : scope.after [] = scope :=
  rfl

@[simp]
theorem after_cons (scope : ImportScope) (call : Call) (rest : List Call) :
    scope.after (call :: rest) = (scope.next call).after rest :=
  rfl

theorem after_append (scope : ImportScope) (earlier later : List Call) :
    scope.after (earlier ++ later) = (scope.after earlier).after later :=
  List.foldl_append

/-- A run only lets a scope grow. -/
theorem growsTo_after (scope : ImportScope) (calls : List Call) :
    scope.GrowsTo (scope.after calls) := by
  induction calls generalizing scope with
  | nil => exact .refl scope
  | cons call rest ih => exact (scope.performs call).growsTo.trans (ih _)

/-- The calls of a run are those of its steps. -/
theorem call_mem_of_mem_trace {scope : ImportScope} {calls : List Call} {step : Step}
    (member : step ∈ scope.trace calls) : step.call ∈ calls := by
  induction calls generalizing scope with
  | nil => cases member
  | cons call rest ih =>
      rcases List.mem_cons.mp member with rfl | later
      · exact List.mem_cons_self
      · exact List.mem_cons_of_mem _ (ih later)

/-- The references used at the end are those used before and those that a step resolved. -/
theorem isUsed_after_iff (scope : ImportScope) (calls : List Call) (ref : String) :
    (scope.after calls).isUsed ref = true ↔
      scope.isUsed ref = true
        ∨ ∃ table printed, ⟨.resolve table ref, .resolved printed⟩ ∈ scope.trace calls := by
  induction calls generalizing scope with
  | nil => simp [trace]
  | cons call rest ih =>
      rw [after_cons, ih, (scope.performs call).isUsed_iff, or_assoc]
      apply or_congr_right
      simp only [trace, List.mem_cons, Step.mk.injEq, exists_or, eq_comm]

/-- The imports at the end are those recorded before and those that a printed name came with. -/
theorem mem_imports_after_iff (scope : ImportScope) (calls : List Call) (item : Go.Import) :
    item ∈ SortedSet.toList (scope.after calls).imports ↔
      item ∈ SortedSet.toList scope.imports
        ∨ ∃ table ref printed, ⟨.resolve table ref, .resolved printed⟩ ∈ scope.trace calls
          ∧ printed.origin = some item := by
  induction calls generalizing scope with
  | nil => simp [trace]
  | cons call rest ih =>
      rw [after_cons, ih, (scope.performs call).mem_imports_iff, or_assoc]
      apply or_congr_right
      simp only [trace, List.mem_cons, Step.mk.injEq, or_and_right, exists_or, and_assoc, eq_comm]

/-- What a step of a run printed is backed by the scope at the end. -/
theorem backs_of_mem_trace {scope : ImportScope} {calls : List Call} {table : SymbolTable}
    {ref : String} {printed : ResolvedType}
    (step : ⟨.resolve table ref, .resolved printed⟩ ∈ scope.trace calls) :
    ∃ type, table.find? ref = some type ∧ (scope.after calls).Backs type printed := by
  induction calls generalizing scope with
  | nil => cases step
  | cons call rest ih =>
      rcases List.mem_cons.mp step with here | later
      · rcases Step.mk.inj here with ⟨rfl, answered⟩
        have performed := scope.performs (.resolve table ref)
        rw [← answered] at performed
        cases performed with
        | resolve found way => exact ⟨_, found, way.backs.mono (growsTo_after _ rest)⟩
      · exact ih later

/-- A resolution of a reference that its table holds is answered with a printed form. -/
theorem exists_step_of_mem {scope : ImportScope} {calls : List Call} {table : SymbolTable}
    {ref : String} {type : GoType} (member : .resolve table ref ∈ calls)
    (found : table.find? ref = some type) :
    ∃ printed, ⟨.resolve table ref, .resolved printed⟩ ∈ scope.trace calls := by
  induction calls generalizing scope with
  | nil => cases member
  | cons call rest ih =>
      rcases List.mem_cons.mp member with rfl | later
      · have performed := scope.performs (.resolve table ref)
        rw [trace]
        generalize scope.next (.resolve table ref) = later at performed
        generalize scope.answer (.resolve table ref) = answer at performed
        cases performed with
        | resolve _ _ => exact ⟨_, List.mem_cons_self⟩
        | fail absent =>
            rw [found] at absent
            contradiction
      · rcases ih later with ⟨printed, step⟩
        exact ⟨printed, List.mem_cons_of_mem _ step⟩

/-- Without its failing calls a run has the same other steps and the same end. -/
theorem run_without_failures (scope : ImportScope) (calls : List Call) :
    let kept := (scope.trace calls).filter fun step => !step.failed
    scope.trace (kept.map Step.call) = kept
      ∧ scope.after (kept.map Step.call) = scope.after calls := by
  induction calls generalizing scope with
  | nil => exact ⟨rfl, rfl⟩
  | cons call rest ih =>
      rcases ih (scope.next call) with ⟨sameSteps, sameEnd⟩
      cases failure : (⟨call, scope.answer call⟩ : Step).failed with
      | false => simp [trace, failure, sameSteps, sameEnd]
      | true =>
          have unchanged : scope.next call = scope := by
            have performed := scope.performs call
            generalize scope.answer call = answer at performed failure
            generalize scope.next call = later at performed
            cases performed with
            | reserve path => contradiction
            | resolve found way => contradiction
            | fail absent => rfl
          rw [unchanged] at sameSteps sameEnd
          simp [trace, failure, unchanged, sameSteps, sameEnd]

/-! ## Runs from the start of a file -/

@[simp]
theorem home_new (home : String) : (new home).home = home :=
  rfl

@[simp]
theorem home_after (scope : ImportScope) (calls : List Call) :
    (scope.after calls).home = scope.home :=
  (scope.growsTo_after calls).home

theorem isUsed_after_new_iff {home : String} {calls : List Call} {ref : String} :
    ((new home).after calls).isUsed ref = true ↔
      ∃ table printed, ⟨.resolve table ref, .resolved printed⟩ ∈ (new home).trace calls := by
  have unused : (new home).isUsed ref = false := rfl
  simp [isUsed_after_iff, unused]

theorem mem_imports_after_new_iff {home : String} {calls : List Call} {item : Go.Import} :
    item ∈ SortedSet.toList ((new home).after calls).imports ↔
      ∃ table ref printed, ⟨.resolve table ref, .resolved printed⟩ ∈ (new home).trace calls
        ∧ printed.origin = some item := by
  have unrecorded : SortedSet.toList (new home).imports = [] := rfl
  simp [mem_imports_after_iff, unrecorded]

/-- An import recorded in a run from the start has its name bound to its path, and is that of a type
that a step resolved away from home. -/
theorem type_of_mem_imports_after_new {home : String} {calls : List Call} {item : Go.Import}
    (recorded : item ∈ SortedSet.toList ((new home).after calls).imports) :
    ((new home).after calls).names.find? item.name = some item.path ∧
      ∃ table ref type printed, ⟨.resolve table ref, .resolved printed⟩ ∈ (new home).trace calls
        ∧ table.find? ref = some type ∧ type.importPath = item.path
        ∧ item.path ≠ "" ∧ item.path ≠ home := by
  rcases mem_imports_after_new_iff.mp recorded with ⟨table, ref, printed, step, origin⟩
  rcases backs_of_mem_trace step with ⟨type, found, backs⟩
  cases backs with
  | bare isLocal => contradiction
  | qualified foreign bound _ =>
      obtain rfl := Option.some.inj origin
      rcases isLocal_eq_false_iff.mp foreign with ⟨named, away⟩
      rw [home_after] at away
      exact ⟨bound, table, ref, type, _, step, found, rfl, named, away⟩

/-- After any run from the start of a file: names bound at an earlier point are still bound to their
paths; a recorded import has its name bound to its path, so imports of one name have one path; the
references used are those that a step resolved; imports are recorded for the paths of the types
resolved away from home, and for no others; and without the failing calls the run has the same other
answers and the same end. -/
theorem run_invariant (home : String) (calls : List Call) :
    let final := (new home).after calls
    let steps := (new home).trace calls
    (∀ earlier later, calls = earlier ++ later → ∀ name path,
      ((new home).after earlier).names.find? name = some path →
        final.names.find? name = some path) ∧
    (∀ item ∈ SortedSet.toList final.imports, final.names.find? item.name = some item.path) ∧
    (∀ first ∈ SortedSet.toList final.imports, ∀ second ∈ SortedSet.toList final.imports,
      first.name = second.name → first.path = second.path) ∧
    (∀ ref, final.isUsed ref = true ↔
      ∃ table printed, ⟨.resolve table ref, .resolved printed⟩ ∈ steps) ∧
    (∀ path, (∃ item ∈ SortedSet.toList final.imports, item.path = path) ↔
      ∃ table ref type printed, ⟨.resolve table ref, .resolved printed⟩ ∈ steps
        ∧ table.find? ref = some type ∧ type.importPath = path ∧ path ≠ "" ∧ path ≠ home) ∧
    let kept := steps.filter fun step => !step.failed
    (new home).trace (kept.map Step.call) = kept
      ∧ (new home).after (kept.map Step.call) = final := by
  intro final steps
  refine ⟨?persists, ?bound, ?onePath, fun ref => isUsed_after_new_iff, ?paths,
    (new home).run_without_failures calls⟩
  case persists =>
    rintro earlier later rfl name path held
    simp only [final, after_append]
    exact (growsTo_after _ later).names name path held
  case bound =>
    intro item recorded
    exact (type_of_mem_imports_after_new recorded).1
  case onePath =>
    intro first firstRecorded second secondRecorded same
    have firstBound := (type_of_mem_imports_after_new firstRecorded).1
    have secondBound := (type_of_mem_imports_after_new secondRecorded).1
    rw [same, secondBound] at firstBound
    exact (Option.some.inj firstBound).symm
  case paths =>
    intro path
    constructor
    · rintro ⟨item, recorded, rfl⟩
      exact (type_of_mem_imports_after_new recorded).2
    · rintro ⟨table, ref, type, printed, step, found, rfl, named, away⟩
      rcases backs_of_mem_trace step with ⟨held, heldFound, backs⟩
      obtain rfl := Option.some.inj (found.symm.trans heldFound)
      rcases backs.exists_qualifier named (by simpa using away) with ⟨name, _, _, recorded⟩
      exact ⟨_, recorded, rfl⟩

end RpcStubs.ImportScope
