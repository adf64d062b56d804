import Mathlib.Data.List.Forall2
import RpcStubs.Json.Tree

/-!
# Trees that fit a shape

What a tree has to look like to be read as a value of a shape, and which value that is. A record is
an object or a list, and either way it comes down to what stands for each field
(`Tree.HasFields`). The relations say nothing about tokens or an order of reading.
-/

namespace RpcStubs.Json

/-! ## Fields of a record -/

/-- The values that stand in an object under a key, in order. -/
def valuesOf (key : String) (members : List (String × Tree)) : List Tree :=
  (members.filter fun member => member.1 = key).map Prod.snd

/-- What stands in a tree for each of some keys. In an object every key stands at most once, in any
order, and members under other keys do not matter. A list gives the values for the keys in order and
may end before the last. -/
def Tree.HasFields (keys : List String) (tree : Tree) (found : List (Option Tree)) : Prop :=
  match tree with
  | .object members =>
      List.Forall₂ (fun key value => valuesOf key members = value.toList) keys found
  | .list items =>
      ∃ missing, found = items.map some ++ List.replicate missing none
        ∧ found.length = keys.length
  | _ => False

theorem valuesOf_append (key : String) (first second : List (String × Tree)) :
    valuesOf key (first ++ second) = valuesOf key first ++ valuesOf key second := by
  simp [valuesOf]

theorem valuesOf_single (key found : String) (tree : Tree) :
    valuesOf key [(found, tree)] = if found = key then [tree] else [] := by
  by_cases same : found = key <;> simp [valuesOf, same]

theorem hasFields_nil_iff {keys : List String} {found : List (Option Tree)} :
    (Tree.list []).HasFields keys found ↔ found = List.replicate keys.length none := by
  constructor
  case mp =>
    rintro ⟨missing, rfl, length⟩
    simpa using length
  case mpr =>
    rintro rfl
    exact ⟨keys.length, rfl, List.length_replicate⟩

theorem hasFields_cons_iff {key : String} {keys : List String} {item : Tree} {items : List Tree}
    {found : List (Option Tree)} :
    (Tree.list (item :: items)).HasFields (key :: keys) found ↔
      ∃ others, found = some item :: others ∧ (Tree.list items).HasFields keys others := by
  constructor
  case mp =>
    rintro ⟨missing, rfl, length⟩
    exact ⟨items.map some ++ List.replicate missing none, rfl, missing, rfl,
      Nat.succ.inj length⟩
  case mpr =>
    rintro ⟨others, rfl, missing, rfl, length⟩
    exact ⟨missing, rfl, congrArg Nat.succ length⟩

/-! ## Shapes -/

/-- The keys of some fields. -/
def Fields.keys : Fields → List String
  | .done => []
  | .field key _ _ rest => key :: rest.keys

mutual

/-- No record of a shape has two fields of one key. -/
def Shape.Distinct : Shape → Prop
  | .text => True
  | .list item => item.Distinct
  | .record _ fields => fields.Distinct

/-- No field shares its key with one behind it, nor does a record inside the fields have such. -/
def Fields.Distinct : Fields → Prop
  | .done => True
  | .field key _ shape rest => key ∉ rest.keys ∧ shape.Distinct ∧ rest.Distinct

end

mutual

/-- A tree is read as a value of a shape. -/
def Shape.Fits : (shape : Shape) → Tree → shape.Value → Prop
  | .text, tree, value => tree = .text value
  | .list item, tree, values => ∃ items, tree = .list items ∧ List.Forall₂ item.Fits items values
  | .record _ fields, tree, values =>
      ∃ found, tree.HasFields fields.keys found ∧ fields.Fit found values

/-- What stands for some fields is read as values for them. A field that is not needed reads as
empty when nothing stands for it. -/
def Fields.Fit : (fields : Fields) → List (Option Tree) → fields.Values → Prop
  | .done, found, _ => found = []
  | .field _ _ _ _, [], _ => False
  | .field _ needed shape rest, none :: found, (value, values) =>
      needed = false ∧ value = shape.empty ∧ rest.Fit found values
  | .field _ _ shape rest, some tree :: found, (value, values) =>
      shape.Fits tree value ∧ rest.Fit found values

end

/-! ## The tree of a value -/

theorem Fields.keys_members : (fields : Fields) → (values : fields.Values) →
    (fields.members values).map Prod.fst = fields.keys
  | .done, _ => rfl
  | .field key _ _ rest, (_, values) => congrArg (key :: ·) (keys_members rest values)

theorem valuesOf_eq_nil {key : String} {members : List (String × Tree)}
    (absent : key ∉ members.map Prod.fst) : valuesOf key members = [] := by
  have none : (members.filter fun member => member.1 = key) = [] := by
    apply List.filter_eq_nil_iff.mpr
    intro member inside same
    exact absent (List.mem_map.mpr ⟨member, inside, of_decide_eq_true same⟩)
  rw [valuesOf, none, List.map_nil]

/-- A member under another key does not matter for some keys. -/
theorem hasFields_cons_of_notMem {keys : List String} {key : String} {tree : Tree}
    {members : List (String × Tree)} {found : List (Option Tree)} (unknown : key ∉ keys)
    (hasFields : (Tree.object members).HasFields keys found) :
    (Tree.object ((key, tree) :: members)).HasFields keys found := by
  induction hasFields with
  | nil => exact .nil
  | @cons own value keys found stands _ ih =>
      simp only [List.mem_cons, not_or] at unknown
      refine .cons ?_ (ih unknown.2)
      simpa [valuesOf, unknown.1] using stands

mutual

/-- The tree of a value is read as that value. -/
theorem Shape.fits_tree : (shape : Shape) → shape.Distinct → (value : shape.Value) →
    shape.Fits (shape.tree value) value
  | .text, _, _ => rfl
  | .list item, distinct, values => by
      refine ⟨values.map item.tree, rfl, ?_⟩
      rw [List.forall₂_map_left_iff, List.forall₂_same]
      exact fun value _ => Shape.fits_tree item distinct value
  | .record _ fields, distinct, values => Fields.fit_members fields distinct values

theorem Fields.fit_members : (fields : Fields) → fields.Distinct → (values : fields.Values) →
    ∃ found, (Tree.object (fields.members values)).HasFields fields.keys found
      ∧ fields.Fit found values
  | .done, _, _ => ⟨[], .nil, rfl⟩
  | .field key _ shape rest, ⟨unknown, ofShape, ofRest⟩, (value, values) => by
      rcases Fields.fit_members rest ofRest values with ⟨found, hasFields, fit⟩
      have absent : valuesOf key (rest.members values) = [] := by
        apply valuesOf_eq_nil
        rwa [Fields.keys_members]
      refine ⟨some (shape.tree value) :: found, .cons ?_ ?_, Shape.fits_tree shape ofShape value,
        fit⟩
      · change valuesOf key ([(key, shape.tree value)] ++ rest.members values) = _
        rw [valuesOf_append, valuesOf_single, if_pos rfl, absent]
        rfl
      · exact hasFields_cons_of_notMem unknown hasFields

end

end RpcStubs.Json
