import RpcStubs.Proofs.Symbol.Run

/-!
# What a reservation promises

A name stays with the first path that gets it, be it by a reservation or by a type. So a reservation
gives a path its last element only where no other path holds that name, and of two names that a path
holds it is referred to by the first. Within these bounds the promise of a reservation is kept by
whatever comes behind it (`reserve_promise`).
-/

namespace RpcStubs.ImportScope

variable {scope later : ImportScope}

/-! ## Resolving what the table holds -/

/-- A reference that the table holds is resolved in one of the ways of a resolution. -/
theorem exists_resolution (scope : ImportScope) {table : SymbolTable} {ref : String} {type : GoType}
    (found : table.find? ref = some type) :
    ∃ printed later, scope.resolve table ref = .ok (printed, later)
      ∧ scope.Resolution ref type printed later := by
  cases outcome : scope.resolve table ref with
  | error missing =>
      rcases resolve_eq_error_iff.mp outcome with ⟨absent, _⟩
      cases found.symm.trans absent
  | ok result =>
      rcases resolve_eq_ok_iff.mp outcome with ⟨held, heldFound, way⟩
      obtain rfl := Option.some.inj (found.symm.trans heldFound)
      exact ⟨_, _, rfl, way⟩

/-- A type is not printed with a name that another path holds. -/
theorem Backs.name_ne {type : GoType} {printed : ResolvedType} {name holder : String}
    (backs : scope.Backs type printed) (held : scope.names.find? name = some holder)
    (elsewhere : type.importPath ≠ holder) : printed.name ≠ name ++ "." ++ type.name := by
  cases backs with
  | bare _ =>
      intro same
      have longer := congrArg String.length same
      simp [String.length_append] at longer
  | @qualified qualifier _ bound _ =>
      intro same
      have sameName : qualifier = name := by
        simpa [String.append_left_inj] using same
      rw [sameName, held] at bound
      exact elsewhere (Option.some.inj bound).symm

/-- A type away from home is printed with the name that is found for its path. -/
theorem Resolution.eq_of_qualifier? {ref : String} {type : GoType} {printed : ResolvedType}
    {name : String} (way : scope.Resolution ref type printed later)
    (foreign : scope.isLocal type = false)
    (held : scope.qualifier? type.importPath = some name) :
    printed = ⟨name ++ "." ++ type.name, some ⟨type.importPath, name⟩⟩ := by
  cases way with
  | atHome isLocal =>
      rw [foreign] at isLocal
      contradiction
  | known _ found => rw [Option.some.inj (held.symm.trans found)]
  | fresh _ unheld _ => cases held.symm.trans unheld

/-! ## The name found for a path -/

/-- What a call binds to a path is the last element of the path, or the path held no name. -/
theorem Performs.names_cases {call : Call} {answer : Answer} {name path : String}
    (performed : scope.Performs call answer later)
    (bound : later.names.find? name = some path) :
    scope.names.find? name = some path ∨ name = Go.lastElement path
      ∨ scope.qualifier? path = none := by
  cases performed with
  | reserve _ =>
      rcases names_reserve_cases bound with old | ⟨own, rfl⟩
      · exact .inl old
      · exact .inr (.inl own)
  | resolve _ way =>
      rcases way.names_cases bound with old | ⟨unheld, _⟩
      · exact .inl old
      · exact .inr (.inr unheld)
  | fail _ => exact .inl bound

/-- A path for which its last element is found is not given a name that would be found instead. -/
theorem Performs.qualifier?_eq {call : Call} {answer : Answer} {path : String}
    (performed : scope.Performs call answer later)
    (found : scope.qualifier? path = some (Go.lastElement path)) :
    later.qualifier? path = some (Go.lastElement path) := by
  rcases qualifier?_eq_some_iff.mp found with ⟨bound, least⟩
  apply qualifier?_eq_some_iff.mpr
  refine ⟨performed.growsTo.names _ _ bound, ?_⟩
  intro name laterBound
  rcases performed.names_cases laterBound with old | rfl | unheld
  · exact least name old
  · exact Std.le_refl _
  · cases found.symm.trans unheld

theorem qualifier?_after_eq {path : String} (calls : List Call)
    (found : scope.qualifier? path = some (Go.lastElement path)) :
    (scope.after calls).qualifier? path = some (Go.lastElement path) := by
  induction calls generalizing scope with
  | nil => exact found
  | cons call rest ih => exact ih ((scope.performs call).qualifier?_eq found)

/-! ## Reservations -/

theorem find?_lastElement_reserve (scope : ImportScope) (path : String) :
    (scope.reserve path).names.find? (Go.lastElement path) =
      some ((scope.names.find? (Go.lastElement path)).getD path) := by
  rw [find?_names_reserve, if_pos rfl]

/-- For a reserved path its last element is found if no other path held it and no name was found for
the path that comes before it. -/
theorem qualifier?_reserve_eq {path : String}
    (free : (scope.names.find? (Go.lastElement path)).getD path = path)
    (least : ∀ name, scope.names.find? name = some path → Go.lastElement path ≤ name) :
    (scope.reserve path).qualifier? path = some (Go.lastElement path) := by
  apply qualifier?_eq_some_iff.mpr
  constructor
  · rw [find?_lastElement_reserve, free]
  · intro name bound
    rcases names_reserve_cases bound with old | ⟨rfl, _⟩
    · exact least name old
    · exact Std.le_refl _

/-- Once a path is reserved its last element is held for good, by the path that held it before and
else by the reserved path. Whatever is reserved and resolved afterwards, no type from elsewhere is
printed with it. If the reserved path is the one to hold it, and held no name before that would be
found first, then all its types that need a qualifier are printed with it. -/
theorem reserve_promise (scope : ImportScope) (path : String) (calls : List Call) :
    let own := Go.lastElement path
    let holder := (scope.names.find? own).getD path
    let later := (scope.reserve path).after calls
    later.names.find? own = some holder
      ∧ ∀ table ref type, SortedMap.find? table ref = some type →
        ∃ printed next, later.resolve table ref = .ok (printed, next)
          ∧ (type.importPath ≠ holder → printed.name ≠ own ++ "." ++ type.name)
          ∧ (holder = path → (∀ name, scope.names.find? name = some path → own ≤ name) →
            type.importPath = path → scope.isLocal type = false →
              printed = ⟨own ++ "." ++ type.name, some ⟨path, own⟩⟩) := by
  intro own holder later
  have held : later.names.find? own = some holder :=
    (growsTo_after _ calls).names _ _ (scope.find?_lastElement_reserve path)
  have sameHome : later.home = scope.home := home_after ..
  refine ⟨held, ?_⟩
  intro table ref type found
  rcases later.exists_resolution found with ⟨printed, next, resolved, way⟩
  refine ⟨printed, next, resolved, ?elsewhere, ?fromPath⟩
  case elsewhere =>
    intro elsewhere
    exact way.backs.name_ne (way.growsTo.names _ _ held) elsewhere
  case fromPath =>
    rintro free least rfl foreign
    have stillForeign : later.isLocal type = false := by
      rw [isLocal_eq_false_iff, sameHome]
      exact isLocal_eq_false_iff.mp foreign
    exact way.eq_of_qualifier? stillForeign
      (qualifier?_after_eq calls (qualifier?_reserve_eq free least))

/-- A reservation does not do all it could be thought to do. The last element of `second/client` is
held by `first/client` already; the types of `goods/item` were printed with another name before, and
that name is found first; and types at home need no qualifier. -/
theorem reservations_without_effect :
    let table := SymbolTable.ofEntries
      [⟨"call", "Call", "client", "first/client"⟩, ⟨"dial", "Dial", "client", "second/client"⟩,
        ⟨"item", "Item", "api", "goods/item"⟩, ⟨"shop", "Shop", "shop", "home/shop"⟩]
    let contested := ((new "home/shop").reserve "first/client").reserve "second/client"
    let printedBefore := ((new "home/shop").next (.resolve table "item")).reserve "goods/item"
    let atHome := (new "home/shop").reserve "home/shop"
    contested.answer (.resolve table "call") =
        .resolved ⟨"client.Call", some ⟨"first/client", "client"⟩⟩
      ∧ contested.answer (.resolve table "dial") =
        .resolved ⟨"client1.Dial", some ⟨"second/client", "client1"⟩⟩
      ∧ printedBefore.answer (.resolve table "item") =
        .resolved ⟨"api.Item", some ⟨"goods/item", "api"⟩⟩
      ∧ atHome.answer (.resolve table "shop") = .resolved ⟨"Shop", none⟩ := by
  decide

end RpcStubs.ImportScope
