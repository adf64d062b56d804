import RpcStubs.Proofs.Symbol.Run

/-!
# One qualifier for each path

A scope looks a path up among names that are keyed by name, so the qualifier it finds is *the*
qualifier of the path only while no path holds two names. Reservations alone keep to that, since a
path is reserved under its last element; resolutions keep to it as well, since they bind a name only
to a path without one. A reservation behind a resolution may break it, so all reservations have to
come first (`one_qualifier_per_path`).
-/

namespace RpcStubs.ImportScope

/-- No path holds two names. -/
def OneName (scope : ImportScope) : Prop :=
  ∀ path first second, scope.names.find? first = some path → scope.names.find? second = some path →
    first = second

/-- Every name is the last element of the path that holds it. -/
def OwnNames (scope : ImportScope) : Prop :=
  ∀ name path, scope.names.find? name = some path → name = Go.lastElement path

variable {scope later : ImportScope}

theorem OwnNames.oneName (own : scope.OwnNames) : scope.OneName := by
  intro path first second firstBound secondBound
  rw [own first path firstBound, own second path secondBound]

theorem ownNames_new (home : String) : (new home).OwnNames := by
  intro name path bound
  cases bound

theorem OwnNames.reserve (own : scope.OwnNames) (path : String) :
    (scope.reserve path).OwnNames := by
  intro name held bound
  rcases names_reserve_cases bound with old | ⟨rfl, rfl⟩
  · exact own name held old
  · rfl

theorem OwnNames.reserves (own : scope.OwnNames) (paths : List String) :
    (scope.after (paths.map .reserve)).OwnNames := by
  induction paths generalizing scope with
  | nil => exact own
  | cons path rest ih => exact ih (own.reserve path)

namespace OneName

/-- Where no path holds two names, the search for a name of a path finds the one it holds. -/
theorem qualifier?_eq_some_iff (one : scope.OneName) {path name : String} :
    scope.qualifier? path = some name ↔ scope.names.find? name = some path := by
  constructor
  · exact find?_of_qualifier?_eq_some
  · intro bound
    apply ImportScope.qualifier?_eq_some_iff.mpr
    refine ⟨bound, ?_⟩
    intro other otherBound
    obtain rfl := one path other name otherBound bound
    exact Std.le_refl other

theorem resolution {ref : String} {type : GoType} {printed : ResolvedType} (one : scope.OneName)
    (way : scope.Resolution ref type printed later) : later.OneName := by
  intro path first second firstBound secondBound
  rcases way.names_cases firstBound with firstOld | ⟨unheld, firstNew⟩
  · rcases way.names_cases secondBound with secondOld | ⟨unheld, _⟩
    · exact one path first second firstOld secondOld
    · exact absurd firstOld (find?_ne_of_qualifier?_eq_none unheld first)
  · rcases way.names_cases secondBound with secondOld | ⟨_, secondNew⟩
    · exact absurd secondOld (find?_ne_of_qualifier?_eq_none unheld second)
    · have same := Option.some.inj (firstNew.symm.trans secondNew)
      exact congrArg Go.Import.name same

theorem resolves (one : scope.OneName) (table : SymbolTable) (refs : List String) :
    (scope.after (refs.map (.resolve table))).OneName := by
  induction refs generalizing scope with
  | nil => exact one
  | cons ref rest ih =>
      apply ih
      have performed := scope.performs (.resolve table ref)
      generalize scope.next (.resolve table ref) = later at performed
      generalize scope.answer (.resolve table ref) = answer at performed
      cases performed with
      | resolve _ way => exact one.resolution way
      | fail _ => exact one

/-- A scope that backs what was printed for a reference gives it again, and stays as it is. -/
theorem resolve_eq (one : scope.OneName) {table : SymbolTable} {ref : String} {type : GoType}
    {printed : ResolvedType} (found : table.find? ref = some type)
    (backs : scope.Backs type printed) (used : scope.isUsed ref = true) :
    scope.resolve table ref = .ok (printed, scope) := by
  apply resolve_eq_ok_iff.mpr
  refine ⟨type, found, ?_⟩
  have present : scope.used.add ref = scope.used :=
    SortedSet.add_of_mem (SortedSet.mem_toList_iff.mpr used)
  cases backs with
  | bare isLocal =>
      have way : scope.Resolution ref type ⟨type.name, none⟩ _ := .atHome isLocal
      simpa only [record, Option.elim_none, present] using way
  | @qualified name foreign bound recorded =>
      have held := one.qualifier?_eq_some_iff.mpr bound
      have way : scope.Resolution ref type _ _ := .known foreign held
      simpa only [record, Option.elim_some, present, SortedSet.add_of_mem recorded] using way

/-- What the end of a run backs for a resolved reference is what a step of the run printed for it,
and what the scope at the end prints for it again. -/
theorem mem_trace_and_resolve_eq {calls : List Call} (one : (scope.after calls).OneName)
    {table : SymbolTable} {ref : String} {type : GoType} {printed : ResolvedType}
    (member : .resolve table ref ∈ calls) (found : table.find? ref = some type)
    (backs : (scope.after calls).Backs type printed) :
    ⟨.resolve table ref, .resolved printed⟩ ∈ scope.trace calls
      ∧ (scope.after calls).resolve table ref = .ok (printed, scope.after calls) := by
  rcases exists_step_of_mem member found with ⟨given, step⟩
  rcases backs_of_mem_trace step with ⟨held, heldFound, givenBacks⟩
  obtain rfl := Option.some.inj (found.symm.trans heldFound)
  have used := (isUsed_after_iff scope calls ref).mpr (.inr ⟨table, given, step⟩)
  have again := one.resolve_eq found givenBacks used
  have stays := one.resolve_eq found backs used
  obtain rfl := (Prod.mk.inj (Except.ok.inj (again.symm.trans stays))).1
  exact ⟨step, again⟩

end OneName

/-! ## Reservations before resolutions -/

/-- A run that reserves some paths and then resolves some references with one table. -/
def phases (table : SymbolTable) (reserved refs : List String) : List Call :=
  reserved.map .reserve ++ refs.map (.resolve table)

theorem resolve_mem_phases_iff {table other : SymbolTable} {reserved refs : List String}
    {ref : String} :
    .resolve other ref ∈ phases table reserved refs ↔ other = table ∧ ref ∈ refs := by
  simp only [phases, List.mem_append, List.mem_map, Call.resolve.injEq, reduceCtorEq, and_false,
    exists_false, false_or]
  constructor
  · rintro ⟨_, member, rfl, rfl⟩
    exact ⟨rfl, member⟩
  · rintro ⟨rfl, member⟩
    exact ⟨ref, member, rfl, rfl⟩

/-- What comes first in such a run is such a run itself. -/
theorem exists_phases_of_append {table : SymbolTable} {reserved refs : List String}
    {earlier later : List Call} (split : phases table reserved refs = earlier ++ later) :
    ∃ someReserved someRefs, earlier = phases table someReserved someRefs := by
  rcases List.append_eq_append_iff.mp split with ⟨middle, rfl, rest⟩ | ⟨middle, front, _⟩
  · rcases List.map_eq_append_iff.mp rest with ⟨someRefs, _, _, rfl, _⟩
    exact ⟨reserved, someRefs, rfl⟩
  · rcases List.map_eq_append_iff.mp front with ⟨someReserved, _, _, rfl, _⟩
    exact ⟨someReserved, [], (List.append_nil _).symm⟩

theorem oneName_phases (home : String) (table : SymbolTable) (reserved refs : List String) :
    ((new home).after (phases table reserved refs)).OneName := by
  rw [phases, after_append]
  exact ((ownNames_new home).reserves reserved).oneName.resolves table refs

/-- Where no path holds two names, no two recorded imports share a path or a name. -/
theorem pairwise_imports_after_new {home : String} {calls : List Call}
    (one : ((new home).after calls).OneName) :
    (SortedSet.toList ((new home).after calls).imports).Pairwise fun first second =>
      first.path ≠ second.path ∧ first.name ≠ second.name := by
  refine List.Pairwise.imp_of_mem ?_ (SortedSet.nodup_toList _)
  intro first second firstMember secondMember different
  have firstBound := (type_of_mem_imports_after_new firstMember).1
  have secondBound := (type_of_mem_imports_after_new secondMember).1
  constructor
  · intro samePath
    have sameName := one _ _ _ (samePath ▸ firstBound) secondBound
    exact different (Go.Import.mk.injEq .. |>.mpr ⟨samePath, sameName⟩)
  · intro sameName
    have samePath := Option.some.inj ((sameName ▸ firstBound).symm.trans secondBound)
    exact different (Go.Import.mk.injEq .. |>.mpr ⟨samePath, sameName⟩)

/-- In a run from the start of a file that makes all its reservations first, no path ever holds two
names; all types of one path away from home are printed with one qualifier; no two recorded imports
share a path or a name; and a reference that was resolved is resolved in the same way again, which
leaves the scope as it is. -/
theorem one_qualifier_per_path (home : String) (table : SymbolTable)
    (reserved refs : List String) :
    let calls := phases table reserved refs
    let steps := (new home).trace calls
    (∀ earlier later, calls = earlier ++ later →
      ∀ path first second, ((new home).after earlier).names.find? first = some path →
        ((new home).after earlier).names.find? second = some path → first = second) ∧
    (∀ path, path ≠ "" → path ≠ home → ∃ name, ∀ ref type printed,
      ⟨.resolve table ref, .resolved printed⟩ ∈ steps → table.find? ref = some type →
        type.importPath = path →
          printed = ⟨name ++ "." ++ type.name, some ⟨path, name⟩⟩) ∧
    ((SortedSet.toList ((new home).after calls).imports).Pairwise fun first second =>
      first.path ≠ second.path ∧ first.name ≠ second.name) ∧
    (∀ earlier later, calls = earlier ++ later → ∀ ref printed,
      ⟨.resolve table ref, .resolved printed⟩ ∈ (new home).trace earlier →
        ((new home).after earlier).resolve table ref =
          .ok (printed, (new home).after earlier)) := by
  intro calls steps
  have one := oneName_phases home table reserved refs
  refine ⟨?always, ?sameQualifier, pairwise_imports_after_new one, ?again⟩
  case always =>
    intro earlier later split
    rcases exists_phases_of_append split with ⟨someReserved, someRefs, rfl⟩
    exact oneName_phases home table someReserved someRefs
  case sameQualifier =>
    intro path named away
    refine ⟨(((new home).after calls).qualifier? path).getD "", ?_⟩
    rintro ref type printed step found rfl
    rcases backs_of_mem_trace step with ⟨held, heldFound, backs⟩
    obtain rfl := Option.some.inj (found.symm.trans heldFound)
    rcases backs.exists_qualifier named (by simpa using away) with ⟨name, rfl, bound, _⟩
    rw [one.qualifier?_eq_some_iff.mpr bound, Option.getD_some]
  case again =>
    intro earlier later split ref printed step
    rcases exists_phases_of_append split with ⟨someReserved, someRefs, rfl⟩
    rcases backs_of_mem_trace step with ⟨type, found, backs⟩
    have used := isUsed_after_new_iff.mpr ⟨table, printed, step⟩
    exact (oneName_phases home table someReserved someRefs).resolve_eq found backs used

end RpcStubs.ImportScope
