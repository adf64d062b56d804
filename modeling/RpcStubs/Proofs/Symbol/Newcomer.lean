import RpcStubs.Proofs.Symbol.Run

/-!
# Which path gets a name

A path gets its name with the first of its types: the package name that this type asks for, or that
name with a number behind it. A name that does not end in a digit is never made by numbering, so in
a scope where it is free it goes to the first new path that asks for it and stays free if none does
(`find?_names_after_resolves`).
-/

namespace RpcStubs

/-- The types that bring along a path that was not known before: the first type of each new path. -/
def GoType.newcomers : List String → List GoType → List GoType
  | _, [] => []
  | known, type :: rest =>
      if type.importPath ∈ known then newcomers known rest
      else type :: newcomers (type.importPath :: known) rest

namespace ImportScope

/-! ## Names without a number -/

/-- A name that comes from its base alone, however numbers are put behind bases. -/
def Unnumbered (name : String) : Prop :=
  ∀ base n, numbered base n = name → n = 0

/-- A name that does not end in a digit has no number behind it. -/
theorem unnumbered_of_getLast? {name : String} {c : Char} (last : name.toList.getLast? = some c)
    (noDigit : c.isDigit = false) : Unnumbered name := by
  rintro base n rfl
  cases n with
  | zero => rfl
  | succ n =>
      have digits : Nat.toDigits 10 (n + 1) ≠ [] := Nat.toDigits_ne_nil
      rw [numbered, if_neg (Nat.succ_ne_zero n), Nat.toString_eq_repr, String.toList_append,
        Nat.toList_repr, List.getLast?_append, List.getLast?_eq_some_getLast digits,
        Option.some_or, Option.some.injEq] at last
      have digit := Nat.isDigit_of_mem_toDigits (by decide) (by decide) (List.getLast_mem digits)
      rw [last, noDigit] at digit
      contradiction

variable {scope later : ImportScope} {name : String}

/-- A free name without a number is the one chosen for itself and for no other base. -/
theorem freeName_eq_iff (unnumbered : Unnumbered name) (free : scope.names.find? name = none)
    {base : String} : scope.freeName base = name ↔ base = name := by
  rcases scope.exists_freeName base with ⟨n, _, chosen, _, taken⟩
  constructor
  · intro same
    obtain rfl := unnumbered base n (chosen.symm.trans same)
    exact chosen.symm.trans same
  · rintro rfl
    rcases Nat.eq_zero_or_pos n with rfl | positive
    · exact chosen
    · have held : scope.names.contains base = true := taken 0 positive
      rw [SortedMap.contains_eq_false_iff.mpr free] at held
      contradiction

/-! ## Paths that need no name -/

/-- Some paths are those whose types need no new name in a scope: the empty path, the path at home,
and the paths that hold a name already. -/
def Knows (scope : ImportScope) (known : List String) : Prop :=
  ∀ path, path ∈ known ↔
    path = "" ∨ path = scope.home ∨ ∃ name, scope.names.find? name = some path

theorem Knows.mem_of_isLocal {known : List String} (knows : scope.Knows known) {type : GoType}
    (isLocal : scope.isLocal type = true) : type.importPath ∈ known := by
  rcases isLocal_iff.mp isLocal with unnamed | atHome
  · exact (knows _).mpr (.inl unnamed)
  · exact (knows _).mpr (.inr (.inl atHome))

/-- A type away from home whose path holds no name brings a new path along. -/
theorem Knows.not_mem {known : List String} (knows : scope.Knows known) {type : GoType}
    (foreign : scope.isLocal type = false) (unheld : scope.qualifier? type.importPath = none) :
    type.importPath ∉ known := by
  rcases isLocal_eq_false_iff.mp foreign with ⟨named, away⟩
  rw [knows]
  rintro (unnamed | atHome | ⟨name, bound⟩)
  · exact named unnamed
  · exact away atHome
  · exact find?_ne_of_qualifier?_eq_none unheld name bound

/-- Once a type is resolved its path is known as well, and no other path is. -/
theorem Knows.resolution {known : List String} (knows : scope.Knows known) {ref : String}
    {type : GoType} {printed : ResolvedType} (way : scope.Resolution ref type printed later) :
    later.Knows (type.importPath :: known) := by
  intro path
  rw [List.mem_cons, knows, way.growsTo.home]
  constructor
  · rintro (rfl | unnamed | atHome | ⟨name, bound⟩)
    · cases way.backs with
      | bare isLocal =>
          rcases isLocal_iff.mp isLocal with unnamed | atHome
          · exact .inl unnamed
          · exact .inr (.inl (atHome.trans way.growsTo.home))
      | qualified _ bound _ => exact .inr (.inr ⟨_, bound⟩)
    · exact .inl unnamed
    · exact .inr (.inl atHome)
    · exact .inr (.inr ⟨name, way.growsTo.names name path bound⟩)
  · rintro (unnamed | atHome | ⟨name, bound⟩)
    · exact .inr (.inl unnamed)
    · exact .inr (.inr (.inl atHome))
    · rcases way.names_cases bound with before | ⟨_, origin⟩
      · exact .inr (.inr (.inr ⟨name, before⟩))
      · cases way.backs with
        | bare _ => cases origin
        | qualified _ _ _ => exact .inl (congrArg Go.Import.path (Option.some.inj origin)).symm

/-! ## Names at the end of a run -/

/-- After resolutions a name without a number that was free is held by the path of the first
newcomer that asks for it. -/
theorem find?_names_after_resolves {known : List String} (knows : scope.Knows known)
    (unnumbered : Unnumbered name) (free : scope.names.find? name = none) (table : SymbolTable)
    (refs : List String) :
    (scope.after (refs.map (.resolve table))).names.find? name =
      ((GoType.newcomers known (refs.filterMap table.find?)).find? fun type =>
        type.qualifier = name).map GoType.importPath := by
  induction refs generalizing scope known with
  | nil => simpa [GoType.newcomers] using free
  | cons ref rest ih =>
      rw [List.map_cons, after_cons]
      have performed := scope.performs (.resolve table ref)
      generalize scope.next (.resolve table ref) = later at performed
      generalize scope.answer (.resolve table ref) = answer at performed
      cases performed with
      | fail absent =>
          rw [List.filterMap_cons_none absent]
          exact ih knows free
      | @resolve _ _ type _ _ found way =>
          rw [List.filterMap_cons_some found, GoType.newcomers]
          have laterKnows := knows.resolution way
          cases way with
          | atHome isLocal =>
              rw [if_pos (knows.mem_of_isLocal isLocal)]
              exact ih knows free
          | known foreign held =>
              have bound := find?_of_qualifier?_eq_some held
              rw [if_pos ((knows _).mpr (.inr (.inr ⟨_, bound⟩)))]
              exact ih knows free
          | fresh foreign unheld chosen =>
              rw [if_neg (knows.not_mem foreign unheld), List.find?_cons]
              by_cases asks : type.qualifier = name
              · -- The newcomer gets the name it asks for and keeps it.
                obtain rfl := chosen.trans ((freeName_eq_iff unnumbered free).mpr asks)
                rw [decide_eq_true asks]
                apply (growsTo_after _ _).names
                simp [SortedMap.find?_insert]
              · have other := mt (freeName_eq_iff unnumbered free).mp asks
                rw [decide_eq_false asks]
                apply ih laterKnows
                simp [SortedMap.find?_insert, chosen, Ne.symm other, free]

end ImportScope

end RpcStubs
