import RpcStubs.Proofs.Symbol.FreeName

/-!
# One resolution in a scope

A reference that the table holds is resolved in one of three ways: its type is at home, its path
already holds a name, or its path gets a free name. Whatever a scope does, it only grows: names stay
bound to their paths, references stay used, imports stay recorded. What a scope has printed once
therefore stays backed by its names and its imports.
-/

namespace RpcStubs.ImportScope

/-! ## Growth -/

/-- A later scope of the same file: nothing of the earlier one is taken back. -/
structure GrowsTo (scope later : ImportScope) : Prop where
  home : later.home = scope.home
  used : ∀ ref, scope.isUsed ref = true → later.isUsed ref = true
  imports : ∀ item ∈ SortedSet.toList scope.imports, item ∈ SortedSet.toList later.imports
  names : ∀ name path, scope.names.find? name = some path → later.names.find? name = some path

theorem GrowsTo.refl (scope : ImportScope) : scope.GrowsTo scope where
  home := rfl
  used _ used := used
  imports _ recorded := recorded
  names _ _ bound := bound

theorem GrowsTo.trans {scope middle later : ImportScope} (first : scope.GrowsTo middle)
    (second : middle.GrowsTo later) : scope.GrowsTo later where
  home := second.home.trans first.home
  used ref used := second.used ref (first.used ref used)
  imports item recorded := second.imports item (first.imports item recorded)
  names name path bound := second.names name path (first.names name path bound)

/-- A reservation binds the last element of its path, unless that name is bound. -/
theorem find?_names_reserve (scope : ImportScope) (path name : String) :
    (scope.reserve path).names.find? name =
      if name = Go.lastElement path then
        some ((scope.names.find? (Go.lastElement path)).getD path)
      else scope.names.find? name :=
  SortedMap.find?_insertIfNew ..

/-- A reservation newly binds at most the last element of its path, to its path. -/
theorem names_reserve_cases {scope : ImportScope} {path name held : String}
    (bound : (scope.reserve path).names.find? name = some held) :
    scope.names.find? name = some held ∨ name = Go.lastElement path ∧ held = path := by
  rw [find?_names_reserve] at bound
  split at bound
  next same =>
    cases taken : scope.names.find? (Go.lastElement path) with
    | none =>
        rw [taken, Option.getD_none, Option.some.injEq] at bound
        exact .inr ⟨same, bound.symm⟩
    | some holder =>
        rw [taken, Option.getD_some] at bound
        exact .inl (same ▸ taken.trans bound)
  next => exact .inl bound

@[simp]
theorem isUsed_reserve (scope : ImportScope) (path ref : String) :
    (scope.reserve path).isUsed ref = scope.isUsed ref :=
  rfl

@[simp]
theorem imports_reserve (scope : ImportScope) (path : String) :
    (scope.reserve path).imports = scope.imports :=
  rfl

theorem growsTo_reserve (scope : ImportScope) (path : String) :
    scope.GrowsTo (scope.reserve path) where
  home := rfl
  used _ used := used
  imports _ recorded := recorded
  names name held bound := by
    rw [find?_names_reserve]
    split
    next same => rw [← same, bound, Option.getD_some]
    next => exact bound

/-! ## Records -/

section Record

variable (scope : ImportScope) (ref : String) (origin : Option Go.Import)

@[simp]
theorem names_record : (scope.record ref origin).names = scope.names :=
  rfl

@[simp]
theorem isUsed_record (other : String) :
    (scope.record ref origin).isUsed other = true ↔ other = ref ∨ scope.isUsed other = true := by
  simp [isUsed, record, SortedSet.contains_add]

@[simp]
theorem mem_imports_record (item : Go.Import) :
    item ∈ SortedSet.toList (scope.record ref origin).imports ↔
      origin = some item ∨ item ∈ SortedSet.toList scope.imports := by
  cases origin with
  | none => simp [record]
  | some added => simp [record, eq_comm]

end Record

/-! ## The ways of a resolution -/

theorem isLocal_iff {scope : ImportScope} {type : GoType} :
    scope.isLocal type = true ↔ type.importPath = "" ∨ type.importPath = scope.home := by
  simp [isLocal]

theorem isLocal_eq_false_iff {scope : ImportScope} {type : GoType} :
    scope.isLocal type = false ↔ type.importPath ≠ "" ∧ type.importPath ≠ scope.home := by
  simp [isLocal]

/-- How a scope resolves a reference to a type: what it prints, and the scope it leaves. -/
inductive Resolution (scope : ImportScope) (ref : String) (type : GoType) :
    ResolvedType → ImportScope → Prop where
  /-- A type at home is printed as it is. -/
  | atHome (isLocal : scope.isLocal type = true) :
      Resolution scope ref type ⟨type.name, none⟩ (scope.record ref none)
  /-- A path that holds a name is referred to by that name. -/
  | known {name : String} (foreign : scope.isLocal type = false)
      (held : scope.qualifier? type.importPath = some name) :
      Resolution scope ref type ⟨name ++ "." ++ type.name, some ⟨type.importPath, name⟩⟩
        (scope.record ref (some ⟨type.importPath, name⟩))
  /-- A path without a name gets the free one of its type. -/
  | fresh {name : String} (foreign : scope.isLocal type = false)
      (unheld : scope.qualifier? type.importPath = none)
      (chosen : name = scope.freeName type.qualifier) :
      Resolution scope ref type ⟨name ++ "." ++ type.name, some ⟨type.importPath, name⟩⟩
        (record { scope with names := scope.names.insert name type.importPath } ref
          (some ⟨type.importPath, name⟩))

/-- A resolution succeeds exactly where the table holds the reference, in one of the three ways. -/
theorem resolve_eq_ok_iff {scope later : ImportScope} {table : SymbolTable} {ref : String}
    {printed : ResolvedType} :
    scope.resolve table ref = .ok (printed, later) ↔
      ∃ type, table.find? ref = some type ∧ scope.Resolution ref type printed later := by
  constructor
  · intro resolved
    unfold resolve at resolved
    split at resolved
    next => contradiction
    next type found =>
      simp only [Except.ok.injEq, Prod.mk.injEq] at resolved
      rcases resolved with ⟨rfl, rfl⟩
      refine ⟨type, found, ?_⟩
      cases place : scope.isLocal type with
      | true =>
          simp only [print, place, if_true]
          exact .atHome place
      | false =>
          cases holder : scope.qualifier? type.importPath with
          | some name =>
              simp only [print, place, bind, holder, Bool.false_eq_true, if_false]
              exact .known place holder
          | none =>
              simp only [print, place, bind, holder, Bool.false_eq_true, if_false]
              exact .fresh place holder rfl
  · rintro ⟨type, found, way⟩
    cases way with
    | atHome isLocal => simp [resolve, found, print, isLocal]
    | known foreign held => simp [resolve, found, print, foreign, bind, held]
    | fresh foreign unheld chosen => simp [resolve, found, print, foreign, bind, unheld, chosen]

/-- The name that a path is found to hold is the least that is bound to it. -/
theorem qualifier?_eq_some_iff {scope : ImportScope} {path name : String} :
    scope.qualifier? path = some name ↔
      scope.names.find? name = some path
        ∧ ∀ other, scope.names.find? other = some path → name ≤ other := by
  rw [qualifier?, SortedMap.firstKey?_eq_some_iff]
  constructor
  · rintro ⟨⟨holder, bound, same⟩, least⟩
    obtain rfl := eq_of_beq same
    exact ⟨bound, fun other otherBound => least other holder otherBound same⟩
  · rintro ⟨bound, least⟩
    refine ⟨⟨path, bound, beq_self_eq_true path⟩, ?_⟩
    intro other holder otherBound same
    obtain rfl := eq_of_beq same
    exact least other otherBound

theorem find?_of_qualifier?_eq_some {scope : ImportScope} {path name : String}
    (held : scope.qualifier? path = some name) : scope.names.find? name = some path :=
  (qualifier?_eq_some_iff.mp held).1

/-- A path that is found to hold no name is bound to none. -/
theorem find?_ne_of_qualifier?_eq_none {scope : ImportScope} {path : String}
    (unheld : scope.qualifier? path = none) (name : String) :
    scope.names.find? name ≠ some path := by
  intro bound
  have fails := SortedMap.firstKey?_eq_none_iff.mp unheld name path bound
  simp at fails

/-- A scope backs the printed form of a type: the form is bare for a type at home, and else its
qualifier is bound to the path of the type and recorded with it as an import. -/
inductive Backs (scope : ImportScope) (type : GoType) : ResolvedType → Prop where
  | bare (isLocal : scope.isLocal type = true) : Backs scope type ⟨type.name, none⟩
  | qualified {name : String} (foreign : scope.isLocal type = false)
      (bound : scope.names.find? name = some type.importPath)
      (recorded : ⟨type.importPath, name⟩ ∈ SortedSet.toList scope.imports) :
      Backs scope type ⟨name ++ "." ++ type.name, some ⟨type.importPath, name⟩⟩

theorem Backs.mono {scope later : ImportScope} {type : GoType} {printed : ResolvedType}
    (backs : scope.Backs type printed) (grows : scope.GrowsTo later) :
    later.Backs type printed := by
  have same : later.isLocal type = scope.isLocal type := by
    unfold isLocal
    rw [grows.home]
  cases backs with
  | bare isLocal => exact .bare (same.trans isLocal)
  | qualified foreign bound recorded =>
      exact .qualified (same.trans foreign) (grows.names _ _ bound) (grows.imports _ recorded)

/-- A scope backs only the bare form of a type at home. -/
theorem Backs.eq_bare {scope : ImportScope} {type : GoType} {printed : ResolvedType}
    (backs : scope.Backs type printed)
    (atHome : type.importPath = "" ∨ type.importPath = scope.home) :
    printed = ⟨type.name, none⟩ := by
  cases backs with
  | bare _ => rfl
  | qualified foreign _ _ =>
      rw [isLocal_iff.mpr atHome] at foreign
      contradiction

/-- A scope backs a type away from home by a name that is bound to its path and recorded with it. -/
theorem Backs.exists_qualifier {scope : ImportScope} {type : GoType} {printed : ResolvedType}
    (backs : scope.Backs type printed) (named : type.importPath ≠ "")
    (away : type.importPath ≠ scope.home) :
    ∃ name, printed = ⟨name ++ "." ++ type.name, some ⟨type.importPath, name⟩⟩
      ∧ scope.names.find? name = some type.importPath
      ∧ ⟨type.importPath, name⟩ ∈ SortedSet.toList scope.imports := by
  cases backs with
  | bare isLocal =>
      rcases isLocal_iff.mp isLocal with unnamed | atHome
      · exact absurd unnamed named
      · exact absurd atHome away
  | qualified _ bound recorded => exact ⟨_, rfl, bound, recorded⟩

namespace Resolution

variable {scope later : ImportScope} {ref : String} {type : GoType} {printed : ResolvedType}

theorem isUsed_iff (way : scope.Resolution ref type printed later) (other : String) :
    later.isUsed other = true ↔ other = ref ∨ scope.isUsed other = true := by
  cases way <;> exact isUsed_record _ _ _ _

theorem mem_imports_iff (way : scope.Resolution ref type printed later) (item : Go.Import) :
    item ∈ SortedSet.toList later.imports ↔
      printed.origin = some item ∨ item ∈ SortedSet.toList scope.imports := by
  cases way <;> exact mem_imports_record _ _ _ _

/-- A resolution binds at most one name that was not bound before: the one it prints, to a path that
held no name. -/
theorem names_cases (way : scope.Resolution ref type printed later) {name path : String}
    (bound : later.names.find? name = some path) :
    scope.names.find? name = some path
      ∨ scope.qualifier? path = none ∧ printed.origin = some ⟨path, name⟩ := by
  cases way with
  | atHome => exact .inl bound
  | known => exact .inl bound
  | fresh foreign unheld chosen =>
      simp only [names_record, SortedMap.find?_insert] at bound
      split at bound
      next same =>
        obtain rfl := Option.some.inj bound
        exact .inr ⟨unheld, by rw [same]⟩
      next => exact .inl bound

theorem growsTo (way : scope.Resolution ref type printed later) : scope.GrowsTo later where
  home := by cases way <;> rfl
  used other used := (way.isUsed_iff other).mpr (.inr used)
  imports item recorded := (way.mem_imports_iff item).mpr (.inr recorded)
  names name path bound := by
    cases way with
    | atHome => exact bound
    | known => exact bound
    | fresh foreign unheld chosen =>
        -- The free name is bound to nothing, so no binding is written over.
        have different : name ≠ scope.freeName type.qualifier := by
          intro same
          rw [same, scope.find?_freeName] at bound
          contradiction
        simpa [SortedMap.find?_insert, chosen, different] using bound

/-- The scope that a resolution leaves backs what it printed. -/
theorem backs (way : scope.Resolution ref type printed later) : later.Backs type printed := by
  cases way with
  | atHome isLocal => exact .bare isLocal
  | known foreign held =>
      exact .qualified foreign (find?_of_qualifier?_eq_some held) (by simp)
  | fresh foreign unheld chosen =>
      exact .qualified foreign (by simp [SortedMap.find?_insert]) (by simp)

end Resolution

end RpcStubs.ImportScope
