import RpcStubs.Proofs.Symbol.Resolution

/-!
# Allocating a name

A path without a name is given one by a search that looks at one candidate after the other and has
no bound of its own: while a candidate is taken, the next number is put behind the base. The search
ends all the same, with the name that a scope chooses among finitely many candidates, and it makes
at most as many retries as there are names taken (`bind_of_unheld`).
-/

namespace RpcStubs.ImportScope

/-! ## The search -/

/-- A name to be looked at, and the number that the next one gets. -/
structure Candidate where
  name : String
  next : Nat
deriving Repr, DecidableEq

/-- The candidate that a search looks at after another one, if that is taken. -/
def nextCandidate? (scope : ImportScope) (base : String) (candidate : Candidate) :
    Option Candidate :=
  if scope.names.contains candidate.name then
    some ⟨base ++ toString candidate.next, candidate.next + 1⟩
  else none

/-- A search that starts with a candidate ends, after a number of retries, with a name. -/
inductive SearchEnds (scope : ImportScope) (base : String) : Candidate → Nat → String → Prop where
  | found {candidate : Candidate} (free : scope.nextCandidate? base candidate = none) :
      SearchEnds scope base candidate 0 candidate.name
  | retried {candidate later : Candidate} {retries : Nat} {name : String}
      (taken : scope.nextCandidate? base candidate = some later)
      (rest : SearchEnds scope base later retries name) :
      SearchEnds scope base candidate (retries + 1) name

variable {scope : ImportScope} {base name : String}

theorem nextCandidate?_numbered (scope : ImportScope) (base : String) (n : Nat) :
    scope.nextCandidate? base ⟨numbered base n, n + 1⟩ =
      if scope.names.contains (numbered base n) then some ⟨numbered base (n + 1), n + 1 + 1⟩
      else none := by
  simp [nextCandidate?, numbered]

/-- From a numbered name on, a search ends with the first of the names behind it that is free. -/
theorem searchEnds_numbered_iff {n retries : Nat} :
    scope.SearchEnds base ⟨numbered base n, n + 1⟩ retries name ↔
      name = numbered base (n + retries) ∧ scope.names.contains name = false
        ∧ ∀ m, m < retries → scope.names.contains (numbered base (n + m)) = true := by
  induction retries generalizing n with
  | zero =>
      constructor
      · intro ends
        cases ends with
        | found free =>
            rw [nextCandidate?_numbered] at free
            split at free
            next => contradiction
            next untaken =>
              refine ⟨rfl, (Bool.not_eq_true _).mp untaken, ?_⟩
              intro m before
              exact absurd before (Nat.not_lt_zero m)
      · rintro ⟨rfl, free, _⟩
        rw [Nat.add_zero] at free
        apply SearchEnds.found
        rw [nextCandidate?_numbered, free]
        rfl
  | succ retries ih =>
      have behind (m : Nat) : n + (m + 1) = n + 1 + m := by omega
      constructor
      · intro ends
        cases ends with
        | retried taken rest =>
            rw [nextCandidate?_numbered] at taken
            split at taken
            next held =>
              obtain rfl := Option.some.inj taken
              rcases ih.mp rest with ⟨reached, free, between⟩
              rw [behind]
              refine ⟨reached, free, ?_⟩
              rintro (_ | m) before
              · exact held
              · rw [behind]
                exact between m (Nat.lt_of_succ_lt_succ before)
            next => contradiction
      · rintro ⟨reached, free, taken⟩
        have held := taken 0 (Nat.succ_pos retries)
        rw [Nat.add_zero] at held
        have step : scope.nextCandidate? base ⟨numbered base n, n + 1⟩ =
            some ⟨numbered base (n + 1), n + 1 + 1⟩ := by
          rw [nextCandidate?_numbered, if_pos held]
        apply SearchEnds.retried step
        apply ih.mpr
        rw [behind] at reached
        refine ⟨reached, free, ?_⟩
        intro m before
        rw [← behind]
        exact taken (m + 1) (Nat.succ_lt_succ before)

/-- A search that starts with a base ends with the first of its numbered names that is free. -/
theorem searchEnds_iff {retries : Nat} :
    scope.SearchEnds base ⟨base, 1⟩ retries name ↔
      name = numbered base retries ∧ scope.names.contains name = false
        ∧ ∀ m, m < retries → scope.names.contains (numbered base m) = true := by
  have start : (⟨base, 1⟩ : Candidate) = ⟨numbered base 0, 0 + 1⟩ := rfl
  rw [start, searchEnds_numbered_iff]
  simp only [Nat.zero_add]

/-! ## What a path gets -/

/-- Where the path of a type holds no name, the search that starts at the package name of the type
ends, after at most as many retries as there are names taken, and it ends at the first of the base,
the base with 1, the base with 2 and so on that no path holds. The path is bound to this name, and
nothing else in the scope changes. -/
theorem bind_of_unheld (scope : ImportScope) (type : GoType)
    (unheld : scope.qualifier? type.importPath = none) :
    let base :=
      if type.package ≠ "" then type.package
      else Go.packageName (Go.lastElement type.importPath)
    ∃ retries, retries ≤ scope.names.size
      ∧ scope.SearchEnds base ⟨base, 1⟩ retries (numbered base retries)
      ∧ scope.names.find? (numbered base retries) = none
      ∧ (∀ earlier, earlier < retries →
        ∃ holder, scope.names.find? (numbered base earlier) = some holder)
      ∧ (scope.bind type).1 = ⟨type.importPath, numbered base retries⟩
      ∧ (∀ name, (scope.bind type).2.names.find? name =
        if name = numbered base retries then some type.importPath else scope.names.find? name)
      ∧ (scope.bind type).2 = { scope with names := (scope.bind type).2.names } := by
  intro base
  rcases scope.exists_freeName base with ⟨retries, bound, chosen, free, taken⟩
  have ends : scope.SearchEnds base ⟨base, 1⟩ retries (numbered base retries) :=
    searchEnds_iff.mpr ⟨rfl, SortedMap.contains_eq_false_iff.mpr free, taken⟩
  have given : scope.bind type =
      (⟨type.importPath, numbered base retries⟩,
        { scope with names := scope.names.insert (numbered base retries) type.importPath }) := by
    rw [← chosen, bind, unheld]
    rfl
  rw [given]
  refine ⟨retries, bound, ends, free, ?earlier, rfl, ?names, rfl⟩
  case earlier =>
    intro earlier before
    exact SortedMap.contains_iff.mp (taken earlier before)
  case names =>
    intro name
    exact SortedMap.find?_insert ..

/-- Of two paths that hold `v1` and `v11` neither is touched when a third path of a package `v1`
gets a name, after two retries. -/
theorem bind_of_unheld_among_numbered_names :
    let scope := ((new "home").reserve "first/v1").reserve "second/v11"
    let type : GoType := ⟨"Reply", "v1", "third/v1"⟩
    scope.qualifier? type.importPath = none
      ∧ scope.SearchEnds "v1" ⟨"v1", 1⟩ 2 "v12"
      ∧ (scope.bind type).1 = ⟨"third/v1", "v12"⟩
      ∧ (scope.bind type).2.names.find? "v1" = some "first/v1"
      ∧ (scope.bind type).2.names.find? "v11" = some "second/v11" := by
  intro scope type
  have unheld : scope.qualifier? type.importPath = none := by decide
  rcases bind_of_unheld scope type unheld with
    ⟨retries, bound, ends, free, _, chosen, names, _⟩
  have size : scope.names.size = 2 := by decide
  rw [size] at bound
  have taken : retries ≠ 0 := by
    rintro rfl
    exact absurd free (by decide)
  have takenNext : retries ≠ 1 := by
    rintro rfl
    exact absurd free (by decide)
  obtain rfl : retries = 2 := by omega
  exact ⟨unheld, ends, chosen, names "v1", names "v11"⟩

end RpcStubs.ImportScope
