import RpcStubs.Proofs.Sorted.Lookup
import RpcStubs.Symbol.Table

/-!
# Tables of entries

Looking a reference up in the table of some entries finds the last entry of that reference, so
earlier entries of it and entries of other references do not count.
-/

namespace RpcStubs

/-- The last entry of a reference. -/
def TypeEntry.last? (entries : List TypeEntry) (ref : String) : Option TypeEntry :=
  entries.reverse.find? fun entry => entry.ref = ref

theorem TypeEntry.last?_eq_none_iff {entries : List TypeEntry} {ref : String} :
    last? entries ref = none ↔ ∀ entry ∈ entries, entry.ref ≠ ref := by
  simp [last?]

/-- An entry in front counts for its reference where no later entry has it. -/
theorem TypeEntry.last?_cons (entry : TypeEntry) (later : List TypeEntry) (ref : String) :
    last? (entry :: later) ref =
      (last? later ref).or (if entry.ref = ref then some entry else none) := by
  simp only [last?, List.reverse_cons, List.find?_append, List.find?_singleton, decide_eq_true_eq]

theorem TypeEntry.last?_append (earlier later : List TypeEntry) (ref : String) :
    last? (earlier ++ later) ref = (last? later ref).or (last? earlier ref) := by
  simp only [last?, List.reverse_append, List.find?_append]

/-- Entries of other references in front do not count. -/
theorem TypeEntry.last?_cons_of_ne {entry : TypeEntry} {ref : String} (different : entry.ref ≠ ref)
    (later : List TypeEntry) : last? (entry :: later) ref = last? later ref := by
  rw [last?_cons, if_neg different, Option.or_none]

/-- An entry in front of a later one of its reference does not count. -/
theorem TypeEntry.last?_cons_of_shadowed {entry other : TypeEntry} {later : List TypeEntry}
    (behind : other ∈ later) (same : other.ref = entry.ref) (ref : String) :
    last? (entry :: later) ref = last? later ref := by
  by_cases here : entry.ref = ref
  · have held : last? later ref ≠ none := fun none =>
      last?_eq_none_iff.mp none other behind (same.trans here)
    rcases Option.ne_none_iff_exists'.mp held with ⟨last, found⟩
    rw [last?_cons, found, Option.some_or]
  · exact last?_cons_of_ne here later

/-- Two entries of different references may change places. -/
theorem TypeEntry.last?_swap {entry other : TypeEntry} (different : entry.ref ≠ other.ref)
    (later : List TypeEntry) (ref : String) :
    last? (entry :: other :: later) ref = last? (other :: entry :: later) ref := by
  by_cases here : entry.ref = ref
  · have otherDifferent : other.ref ≠ ref := fun same => different (here.trans same.symm)
    rw [last?_cons_of_ne otherDifferent, last?_cons, last?_cons_of_ne otherDifferent, last?_cons]
  · rw [last?_cons_of_ne here, last?_cons other (entry :: later), last?_cons_of_ne here, last?_cons]

namespace SymbolTable

/-- The table of some entries holds for a reference the type of its last entry. -/
theorem find?_ofEntries (entries : List TypeEntry) (ref : String) :
    (ofEntries entries).find? ref = (TypeEntry.last? entries ref).map TypeEntry.goType := by
  have onTop : ∀ table : SymbolTable, (entries.foldl define table).find? ref =
      ((TypeEntry.last? entries ref).map TypeEntry.goType).or (table.find? ref) := by
    intro table
    induction entries generalizing table with
    | nil => rfl
    | cons entry rest ih =>
        rw [List.foldl_cons, ih, find?_define]
        simp only [TypeEntry.last?, List.reverse_cons, List.find?_append, List.find?_singleton,
          decide_eq_true_eq]
        by_cases same : ref = entry.ref
        · subst same
          cases rest.reverse.find? (fun later => decide (later.ref = entry.ref)) <;> simp
        · simp [same, Ne.symm same]
  rw [ofEntries, onTop, SortedMap.find?_empty, Option.or_none]

end SymbolTable

/-- The symbol table of a descriptor set holds exactly the references of its entries. -/
theorem DescriptorSet.contains_symbolTable_eq_false_iff {set : DescriptorSet} {ref : String} :
    SortedMap.contains set.symbolTable ref = false ↔ ∀ entry ∈ set.types, entry.ref ≠ ref := by
  rw [SortedMap.contains_eq_false_iff, symbolTable, SymbolTable.find?_ofEntries,
    Option.map_eq_none_iff, TypeEntry.last?_eq_none_iff]

theorem DescriptorSet.contains_symbolTable_iff {set : DescriptorSet} {ref : String} :
    SortedMap.contains set.symbolTable ref = true ↔ ∃ entry ∈ set.types, entry.ref = ref := by
  rw [← Bool.not_eq_false, contains_symbolTable_eq_false_iff]
  simp

end RpcStubs
