import RpcStubs.Json.Shape
import RpcStubs.Proofs.Json.Fit

/-!
# Slots of a record

While the members of an object are read, every field has a slot that is empty or filled. What a
number of members does to the slots is what the first and then the others do (`takes_append_iff`), and
slots that were empty at first close to the values that the object stands for
(`takes_close_iff_fit`).
-/

namespace RpcStubs.Json

/-! ## One slot -/

/-- A slot takes in trees one after the other, each only while it is empty, and holds a value that
the tree is read as. -/
def SlotTakes (shape : Shape) :
    List Tree → (slot filled : Option shape.Value) → Prop
  | [], slot, filled => filled = slot
  | tree :: trees, slot, filled =>
      slot = none ∧ ∃ value, shape.Fits tree value ∧ SlotTakes shape trees (some value) filled

theorem slotTakes_append_iff {shape : Shape} {first second : List Tree}
    {slot filled : Option shape.Value} :
    SlotTakes shape (first ++ second) slot filled ↔
      ∃ middle, SlotTakes shape first slot middle ∧ SlotTakes shape second middle filled := by
  induction first generalizing slot with
  | nil => simp [SlotTakes]
  | cons tree first ih =>
      simp only [List.cons_append, SlotTakes, ih]
      constructor
      case mp =>
        rintro ⟨empty, value, fits, middle, before, behind⟩
        exact ⟨middle, ⟨empty, value, fits, before⟩, behind⟩
      case mpr =>
        rintro ⟨middle, ⟨empty, value, fits, before⟩, behind⟩
        exact ⟨empty, value, fits, middle, before, behind⟩

/-- A slot that was empty holds in the end what was taken in: nothing, or one value. -/
theorem slotTakes_none_iff {shape : Shape} {trees : List Tree} {filled : Option shape.Value} :
    SlotTakes shape trees none filled ↔ List.Forall₂ shape.Fits trees filled.toList := by
  -- A second tree would find the slot filled.
  match trees with
  | [] => cases filled <;> simp [SlotTakes]
  | [tree] => cases filled <;> simp [SlotTakes]
  | _ :: _ :: _ => cases filled <;> simp [SlotTakes]

namespace Fields

/-- Every slot takes in what stands under its key among some members. -/
def Takes : (fields : Fields) → List (String × Tree) → fields.Slots → fields.Slots → Prop
  | .done, _, _, _ => True
  | .field key _ shape rest, members, (slot, slots), (filled, others) =>
      SlotTakes shape (valuesOf key members) slot filled ∧ rest.Takes members slots others

theorem takes_append_iff : (fields : Fields) → {first second : List (String × Tree)} →
    {slots final : fields.Slots} → (fields.Takes (first ++ second) slots final ↔
      ∃ middle, fields.Takes first slots middle ∧ fields.Takes second middle final)
  | .done, _, _, _, _ => ⟨fun _ => ⟨(), trivial, trivial⟩, fun _ => trivial⟩
  | .field key _ shape rest, first, second, (slot, slots), (filled, others) => by
      simp only [Takes, valuesOf_append, slotTakes_append_iff, takes_append_iff rest]
      constructor
      case mp =>
        rintro ⟨⟨middle, before, behind⟩, middles, othersBefore, othersBehind⟩
        exact ⟨(middle, middles), ⟨before, othersBefore⟩, behind, othersBehind⟩
      case mpr =>
        rintro ⟨⟨middle, middles⟩, ⟨before, othersBefore⟩, behind, othersBehind⟩
        exact ⟨⟨middle, before, behind⟩, middles, othersBefore, othersBehind⟩

theorem takes_nil_iff : (fields : Fields) → {slots final : fields.Slots} →
    (fields.Takes [] slots final ↔ final = slots)
  | .done, _, _ => by simp [Takes]
  | .field key _ shape rest, (slot, slots), (filled, others) => by
      simp [Takes, takes_nil_iff rest, SlotTakes, valuesOf]

/-- Members under other keys are not taken in. -/
theorem takes_unknown_iff : (fields : Fields) → {key : String} → {tree : Tree} →
    {slots final : fields.Slots} → key ∉ fields.keys →
    (fields.Takes [(key, tree)] slots final ↔ final = slots)
  | .done, _, _, _, _, _ => by simp [Takes]
  | .field own _ shape rest, key, tree, (slot, slots), (filled, others), unknown => by
      simp only [keys, List.mem_cons, not_or] at unknown
      simp only [Takes, valuesOf_single, unknown.1, if_false, takes_unknown_iff rest unknown.2,
        Prod.mk.injEq, SlotTakes]

/-- A field without a value closes to the empty value if it is not needed. -/
theorem close_empty_iff {key : String} {needed : Bool} {shape : Shape} {rest : Fields}
    {slots : rest.Slots} {value : shape.Value} {values : rest.Values} :
    (Fields.field key needed shape rest).close (none, slots) = .ok (value, values) ↔
      needed = false ∧ value = shape.empty ∧ rest.close slots = .ok values := by
  cases needed with
  | true => simp [close]
  | false => cases closed : rest.close slots <;> simp [close, closed, Except.map, eq_comm]

theorem close_filled_iff {key : String} {needed : Bool} {shape : Shape} {rest : Fields}
    {held value : shape.Value} {slots : rest.Slots} {values : rest.Values} :
    (Fields.field key needed shape rest).close (some held, slots) = .ok (value, values) ↔
      value = held ∧ rest.close slots = .ok values := by
  cases closed : rest.close slots <;> simp [close, closed, Except.map, eq_comm]

/-- Fields that nothing stands for close to the values that fit nothing. -/
theorem close_vacant_iff_fit : (fields : Fields) → {values : fields.Values} →
    (fields.close fields.vacant = .ok values ↔
      fields.Fit (List.replicate fields.keys.length none) values)
  | .done, _ => by simp [close, keys, Fit]
  | .field _ _ _ rest, (_, _) => by
      rw [vacant, close_empty_iff, close_vacant_iff_fit rest]
      rfl

/-- The slots that members fill close to the values that these members stand for. -/
theorem takes_close_iff_fit : (fields : Fields) → {members : List (String × Tree)} →
    {values : fields.Values} →
    ((∃ slots, fields.Takes members fields.vacant slots ∧ fields.close slots = .ok values) ↔
      ∃ found, (Tree.object members).HasFields fields.keys found ∧ fields.Fit found values)
  | .done, _, _ => by
      simp [Takes, close, Tree.HasFields, keys, Fit]
  | .field key needed shape rest, members, (value, values) => by
      have ofRest :
          (∃ slots, rest.Takes members rest.vacant slots ∧ rest.close slots = .ok values) ↔
            ∃ found, (Tree.object members).HasFields rest.keys found ∧ rest.Fit found values :=
        takes_close_iff_fit rest
      constructor
      case mp =>
        rintro ⟨⟨filled, slots⟩, ⟨taken, others⟩, closed⟩
        have fits := slotTakes_none_iff.mp taken
        -- A filled slot took in one tree, an empty one none: that is what stood under the key.
        cases filled with
        | none =>
            rw [close_empty_iff] at closed
            rcases closed with ⟨optional, empty, closed⟩
            rcases ofRest.mp ⟨slots, others, closed⟩ with ⟨found, hasFields, fit⟩
            have absent := List.forall₂_nil_right_iff.mp fits
            exact ⟨none :: found, .cons absent hasFields, optional, empty, fit⟩
        | some held =>
            rw [close_filled_iff] at closed
            rcases closed with ⟨rfl, closed⟩
            rcases ofRest.mp ⟨slots, others, closed⟩ with ⟨found, hasFields, fit⟩
            rcases List.forall₂_cons_right_iff.mp fits with ⟨tree, trees, treeFits, others, single⟩
            rw [List.forall₂_nil_right_iff.mp others] at single
            exact ⟨some tree :: found, .cons single hasFields, treeFits, fit⟩
      case mpr =>
        rintro ⟨found, hasFields, fit⟩
        rcases List.forall₂_cons_left_iff.mp hasFields with ⟨here, found, stands, restHas, rfl⟩
        cases here with
        | none =>
            rcases fit with ⟨optional, empty, fit⟩
            rcases ofRest.mpr ⟨found, restHas, fit⟩ with ⟨slots, others, closed⟩
            refine ⟨(none, slots), ⟨slotTakes_none_iff.mpr ?_, others⟩, ?_⟩
            · exact List.forall₂_nil_right_iff.mpr stands
            · exact close_empty_iff.mpr ⟨optional, empty, closed⟩
        | some tree =>
            rcases fit with ⟨treeFits, fit⟩
            rcases ofRest.mpr ⟨found, restHas, fit⟩ with ⟨slots, others, closed⟩
            refine ⟨(some value, slots), ⟨slotTakes_none_iff.mpr ?_, others⟩, ?_⟩
            · rw [stands]
              exact .cons treeFits .nil
            · exact close_filled_iff.mpr ⟨rfl, closed⟩

end Fields

end RpcStubs.Json
