import RpcStubs.Proofs.Json.Read

/-!
# Reading shapes

The reader of every shape is exact: a record by its fields, in either way of writing it, and lists
and texts by their own readers. A text that writes a tree therefore parses as the values that fit the
tree and as nothing else (`Shape.parse_eq_ok_iff`), as long as the keys of a record are distinct.
-/

namespace RpcStubs.Json

/-! ## Records written as objects -/

section Accept

variable {key : String} {needed : Bool} {shape : Shape} {rest : Fields}

theorem acceptsExactly_done : AcceptsExactly .done := by
  intro key tree tokens rest spells slots filled later
  cases spells with
  | token matched ofValue =>
      cases matched
      simp [readMember, Fields.accept, readColon, skipValue_lexemes ofValue, Fields.Takes, bind,
        Except.bind, pure, Except.pure, eq_comm]

/-- A field leaves members under other keys to the fields behind it. -/
theorem readMember_other {found : String} (other : found ≠ key) {slot : Option shape.Value}
    {slots : rest.Slots} {tokens : Tokens} :
    readMember (Fields.field key needed shape rest).accept found (slot, slots) tokens
      = (readMember rest.accept found slots tokens).map fun result =>
          ((slot, result.1), result.2) := by
  have accepts : (Fields.field key needed shape rest).accept found (slot, slots) tokens
      = (rest.accept found slots tokens).map fun result =>
          result.map fun read => ((slot, read.1), read.2) :=
    if_neg other
  unfold readMember
  rw [accepts]
  cases rest.accept found slots tokens with
  | some result => rfl
  | none =>
      cases readColon tokens with
      | error fault => rfl
      | ok tokens =>
          dsimp only [bind, Except.bind, Option.map]
          cases skipValue tokens <;> rfl

/-- A field takes the value under its own key, unless it has one. -/
theorem readMember_own {slot : Option shape.Value} {slots : rest.Slots} {tokens : Tokens} :
    readMember (Fields.field key needed shape rest).accept key (slot, slots) tokens
      = match slot with
        | some _ => .error ⟨.duplicateField key, duplicatePosition tokens⟩
        | none => do
            let tokens ← readColon tokens
            let (value, tokens) ← shape.read tokens
            return ((some value, slots), tokens) := by
  have accepts : (Fields.field key needed shape rest).accept key (slot, slots) tokens
      = match slot with
        | some _ => some (.error ⟨.duplicateField key, duplicatePosition tokens⟩)
        | none => some do
            let tokens ← readColon tokens
            let (value, tokens) ← shape.read tokens
            return ((some value, slots), tokens) :=
    if_pos rfl
  unfold readMember
  rw [accepts]
  cases slot <;> rfl

theorem acceptsExactly_field (unknown : key ∉ rest.keys) (exact : Exact shape.read shape.Fits)
    (others : AcceptsExactly rest) : AcceptsExactly (.field key needed shape rest) := by
  rintro found tree tokens behind spells ⟨slot, slots⟩ ⟨filled, final⟩ later
  simp only [Fields.Takes, valuesOf_single]
  by_cases same : found = key
  case pos =>
    subst same
    -- No field behind this one has the key too, so the other slots stay as they are.
    rw [readMember_own, if_pos rfl, rest.takes_unknown_iff unknown]
    cases slot with
    | some held => simp [SlotTakes]
    | none =>
        cases spells with
        | token matched ofValue =>
            cases matched
            constructor
            case mp =>
              intro read
              rcases bind_eq_ok_iff.mp read with ⟨_, ⟨⟩, readValue⟩
              rcases bind_eq_ok_iff.mp readValue with ⟨⟨value, middle⟩, ofTree, ⟨⟩⟩
              rcases (exact ofValue).mp ofTree with ⟨fits, rfl⟩
              exact ⟨⟨⟨rfl, value, fits, rfl⟩, rfl⟩, rfl⟩
            case mpr =>
              rintro ⟨⟨⟨_, value, fits, rfl⟩, rfl⟩, rfl⟩
              have read := (exact ofValue).mpr ⟨fits, rfl⟩
              simp [readColon, read, bind, Except.bind, pure, Except.pure]
  case neg =>
    rw [readMember_other same, if_neg same, map_eq_ok_iff]
    constructor
    case mp =>
      rintro ⟨⟨middle, ended⟩, read, ⟨⟩⟩
      rcases (others spells).mp read with ⟨takes, rfl⟩
      exact ⟨⟨rfl, takes⟩, rfl⟩
    case mpr =>
      rintro ⟨⟨rfl, takes⟩, rfl⟩
      exact ⟨(final, later), (others spells).mpr ⟨takes, rfl⟩, rfl⟩

end Accept

/-! ## Records written as lists -/

/-- Some fields are read from the elements of a list exactly as these stand for them. -/
def ReadsInOrder (fields : Fields) : Prop :=
  ∀ {items : List Tree} {expected : String} {before : Nat} {first : Bool} {tokens rest : Tokens},
    (before == 0) = first → Spells (Tree.itemLexemes first items) tokens rest →
    ∀ {values : fields.Values} {later : Tokens},
      fields.readInOrder expected before tokens = .ok (values, later) ↔
        (∃ found, (Tree.list items).HasFields fields.keys found ∧ fields.Fit found values)
          ∧ later = rest

/-- A list that may hold no more elements does not end before one. -/
theorem readListEnd_item {first : Bool} {item : Tree} {tokens front behind : Tokens}
    (separator : Spells (if first then [] else [.comma]) tokens front)
    (spells : Spells item.lexemes front behind) (rest : Tokens) :
    readListEnd tokens ≠ .ok rest := by
  rcases separator.separator with ⟨rfl, rfl⟩ | ⟨rfl, start, stop, rfl⟩
  · cases item <;> (cases spells with | token matched others => cases matched; nofun)
  · cases item <;> (cases spells with | token matched others => cases matched; nofun)

theorem readsInOrder_done : ReadsInOrder .done := by
  intro items expected before first tokens rest atFront spells values later
  cases items with
  | nil =>
      cases spells with
      | token matched others =>
          cases matched
          cases others
          simp [Fields.readInOrder, readListEnd, Except.map, hasFields_nil_iff, Fields.Fit,
            Fields.keys, eq_comm]
  | cons item items =>
      rcases spells.item with ⟨front, behind, separator, ofItem, others⟩
      rw [Fields.readInOrder, map_eq_ok_iff]
      constructor
      case mp =>
        rintro ⟨ended, read, _⟩
        exact absurd read (readListEnd_item separator ofItem ended)
      case mpr =>
        rintro ⟨⟨found, ⟨missing, rfl, length⟩, fit⟩, _⟩
        cases length

section Field

variable {key : String} {needed : Bool} {shape : Shape} {rest : Fields}

/-- The first field is read from the first element, and the others from those behind it. -/
theorem readInOrder_goesOn {expected : String} {before : Nat} {tokens front : Tokens}
    (goesOn : nextElement (before == 0) tokens = .ok (.goesOn front)) :
    (Fields.field key needed shape rest).readInOrder expected before tokens = (do
      let (value, tokens) ← shape.read front
      let (values, tokens) ← rest.readInOrder expected (before + 1) tokens
      return ((value, values), tokens)) := by
  rw [Fields.readInOrder, goesOn]
  rfl

theorem readsInOrder_field (exact : Exact shape.read shape.Fits) (inOrder : ReadsInOrder rest) :
    ReadsInOrder (.field key needed shape rest) := by
  rintro items expected before _ tokens ended rfl spells ⟨value, values⟩ later
  cases items with
  | nil =>
      have absent : (Fields.field key needed shape rest).close (Fields.vacant _)
            = .ok (value, values) ↔ (Fields.field key needed shape rest).Fit
              (List.replicate (Fields.field key needed shape rest).keys.length none)
              (value, values) :=
        Fields.close_vacant_iff_fit _
      cases spells with
      | token matched others =>
          cases matched
          cases others
          rw [Fields.readInOrder]
          simp only [nextElement, bind, Except.bind, hasFields_nil_iff, exists_eq_left, ← absent]
          cases (Fields.field key needed shape rest).close (Fields.vacant _) with
          | error missing => simp
          | ok closed => simp [pure, Except.pure, eq_comm]
  | cons item items =>
      rcases spells.item with ⟨front, behind, separator, ofItem, others⟩
      have notFirst : (before + 1 == 0) = false := rfl
      have ofRest {values : rest.Values} :
          rest.readInOrder expected (before + 1) behind = .ok (values, later) ↔
            (∃ found, (Tree.list items).HasFields rest.keys found ∧ rest.Fit found values)
              ∧ later = ended :=
        inOrder notFirst others
      rw [readInOrder_goesOn (nextElement_item separator ofItem), both_eq_ok_iff]
      simp only [Fields.keys, hasFields_cons_iff]
      constructor
      case mp =>
        rintro ⟨_, middle, _, read, readRest, ⟨⟩⟩
        rcases (exact ofItem).mp read with ⟨fits, rfl⟩
        rcases ofRest.mp readRest with ⟨⟨found, hasFields, fit⟩, rfl⟩
        exact ⟨⟨some item :: found, ⟨found, rfl, hasFields⟩, fits, fit⟩, rfl⟩
      case mpr =>
        rintro ⟨⟨_, ⟨found, rfl, hasFields⟩, fits, fit⟩, rfl⟩
        exact ⟨value, behind, values, (exact ofItem).mpr ⟨fits, rfl⟩,
          ofRest.mpr ⟨⟨found, hasFields, fit⟩, rfl⟩, rfl⟩

end Field

/-! ## Records -/

theorem readRecord_exact {name : String} {fields : Fields} (accepts : AcceptsExactly fields)
    (inOrder : ReadsInOrder fields) :
    Exact (Shape.record name fields).read (Shape.record name fields).Fits := by
  intro tree tokens rest spells values later
  cases tree with
  | list items =>
      cases spells with
      | token matched others =>
          cases matched
          have atFront : ((0 : Nat) == 0) = true := rfl
          exact inOrder atFront others
  | object members =>
      cases spells with
      | @token _ _ start stop kind inner _ matched others =>
          cases matched
          have enough : members.length < inner.size + 1 := by
            have longer := length_members_lt true members
            have size := others.size
            omega
          have ofMembers {slots : fields.Slots} {behind : Tokens} :
              (∃ stop, readMembers fields.accept (inner.size + 1) true fields.vacant inner
                  = .ok (slots, stop, behind)) ↔
                fields.Takes members fields.vacant slots ∧ behind = rest :=
            readMembers_iff accepts enough others
          simp only [Shape.read, Shape.Fits, bind_eq_ok_iff, Prod.exists]
          constructor
          case mp =>
            rintro ⟨slots, ended, behind, read, closed⟩
            rcases ofMembers.mp ⟨ended, read⟩ with ⟨takes, rfl⟩
            cases outcome : fields.close slots with
            | error missing =>
                rw [outcome] at closed
                cases closed
            | ok held =>
                rw [outcome] at closed
                cases closed
                exact ⟨fields.takes_close_iff_fit.mp ⟨slots, takes, outcome⟩, rfl⟩
          case mpr =>
            rintro ⟨fit, rfl⟩
            rcases fields.takes_close_iff_fit.mpr fit with ⟨slots, takes, closed⟩
            rcases ofMembers.mpr ⟨takes, rfl⟩ with ⟨ended, read⟩
            refine ⟨slots, ended, later, read, ?_⟩
            rw [closed]
            rfl
  | _ =>
      cases spells with
      | token matched others =>
          cases matched
          simp [Shape.read, Shape.Fits, Tree.HasFields]

mutual

theorem Shape.read_exact : (shape : Shape) → shape.Distinct → Exact shape.read shape.Fits
  | .text, _ => readText_exact
  | .list item, distinct => readList_exact (Shape.read_exact item distinct) _
  | .record _ fields, distinct =>
      readRecord_exact (Fields.acceptsExactly fields distinct) (Fields.readsInOrder fields distinct)

theorem Fields.acceptsExactly : (fields : Fields) → fields.Distinct → AcceptsExactly fields
  | .done, _ => acceptsExactly_done
  | .field _ _ shape rest, ⟨unknown, ofShape, others⟩ =>
      acceptsExactly_field unknown (Shape.read_exact shape ofShape)
        (Fields.acceptsExactly rest others)

theorem Fields.readsInOrder : (fields : Fields) → fields.Distinct → ReadsInOrder fields
  | .done, _ => readsInOrder_done
  | .field _ _ shape rest, ⟨_, ofShape, others⟩ =>
      readsInOrder_field (Shape.read_exact shape ofShape) (Fields.readsInOrder rest others)

end

/-! ## Whole texts -/

/-- A text that writes a tree parses as what the tree is read as. -/
theorem Shape.parse_eq_ok_iff {shape : Shape} (distinct : shape.Distinct) {tree : Tree}
    {text : String} (written : tree.WrittenIn text) {value : shape.Value} :
    shape.parse text = .ok value ↔ shape.Fits tree value := by
  rcases written.spells with ⟨finish, spells⟩
  have exact {value : shape.Value} {later : Tokens} :
      shape.read (tokens text) = .ok (value, later) ↔ shape.Fits tree value
        ∧ later = .finish finish :=
    shape.read_exact distinct spells
  simp only [Shape.parse, bind_eq_ok_iff, Prod.exists, exact]
  constructor
  case mp =>
    rintro ⟨held, later, ⟨fits, rfl⟩, ⟨⟩⟩
    exact fits
  case mpr =>
    intro fits
    exact ⟨value, .finish finish, ⟨fits, rfl⟩, rfl⟩

end RpcStubs.Json
