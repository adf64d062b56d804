import RpcStubs.Json.Read
import RpcStubs.Proofs.Fallible
import RpcStubs.Proofs.Json.Skip
import RpcStubs.Proofs.Json.Slots

/-!
# Reading written trees

A reader is exact for a relation if on the tokens of a tree it gives the values that the relation has
for the tree, and stops right behind the tree (`Exact`). An exact reader of elements makes an exact
reader of lists (`readList_exact`), and an object is read exactly when each of its members is
(`readMembers_iff`).
-/

namespace RpcStubs.Json

/-! ## Steps that may fail -/

/-- Two readings in a row succeed if each of them does where it stands. -/
theorem both_eq_ok_iff {α β γ : Type} {front : Except Fault (α × Tokens)} {behind : Reader β}
    {join : α → β → γ} {value : γ} {rest : Tokens} :
    (do
      let (first, tokens) ← front
      let (second, tokens) ← behind tokens
      return (join first second, tokens) : Except Fault (γ × Tokens)) = .ok (value, rest) ↔
      ∃ first middle second, front = .ok (first, middle) ∧ behind middle = .ok (second, rest)
        ∧ value = join first second := by
  simp only [bind_eq_ok_iff, Prod.exists, pure, Except.pure, Except.ok.injEq, Prod.mk.injEq]
  constructor
  case mp =>
    rintro ⟨first, middle, read, second, final, readBehind, rfl, rfl⟩
    exact ⟨first, middle, second, read, readBehind, rfl⟩
  case mpr =>
    rintro ⟨first, middle, second, read, readBehind, rfl⟩
    exact ⟨first, middle, read, second, rest, readBehind, rfl, rfl⟩

/-- A reader gives for the tokens of a tree the values that fit the tree, and the tokens behind. -/
def Exact {α : Type} (read : Reader α) (fits : Tree → α → Prop) : Prop :=
  ∀ {tree : Tree} {tokens rest : Tokens}, Spells tree.lexemes tokens rest →
    ∀ {value : α} {later : Tokens}, read tokens = .ok (value, later) ↔
      fits tree value ∧ later = rest

/-! ## Texts -/

theorem readText_exact : Exact readText Shape.text.Fits := by
  intro tree tokens rest spells value later
  cases tree with
  | text held =>
      cases spells with
      | token matched others =>
          cases matched
          cases others
          simp [readText, Shape.Fits, Except.map, eq_comm]
  | _ =>
      cases spells with
      | token matched others =>
          cases matched
          simp [readText, Shape.Fits]

/-! ## Lists -/

/-- At the front of an element a list goes on, behind the comma if there has to be one. -/
theorem nextElement_item {first : Bool} {item : Tree} {tokens front behind : Tokens}
    (separator : Spells (if first then [] else [.comma]) tokens front)
    (spells : Spells item.lexemes front behind) :
    nextElement first tokens = .ok (.goesOn front) := by
  rcases separator.separator with ⟨rfl, rfl⟩ | ⟨rfl, start, stop, rfl⟩
  · cases item <;> (cases spells with | token matched others => cases matched; rfl)
  · cases item <;> (cases spells with | token matched others => cases matched; rfl)

/-- Elements are read one by one. -/
theorem readElements_succ {α : Type} {read : Reader α} {limit : Nat} {first : Bool}
    {tokens front : Tokens} (goesOn : nextElement first tokens = .ok (.goesOn front)) :
    readElements read (limit + 1) first tokens = (do
      let (element, tokens) ← read front
      let (elements, tokens) ← readElements read limit false tokens
      return (element :: elements, tokens)) := by
  rw [readElements, goesOn]
  rfl

theorem readElements_iff {α : Type} {read : Reader α} {fits : Tree → α → Prop}
    (exact : Exact read fits) {items : List Tree} {limit : Nat} (enough : items.length < limit)
    {first : Bool} {tokens rest : Tokens} (spells : Spells (Tree.itemLexemes first items) tokens rest)
    {values : List α} {later : Tokens} :
    readElements read limit first tokens = .ok (values, later) ↔
      List.Forall₂ fits items values ∧ later = rest := by
  -- The induction is on the elements; the limit only has to outlast them.
  induction items generalizing limit first tokens values with
  | nil =>
      cases limit with
      | zero => exact absurd enough (Nat.not_lt_zero _)
      | succ limit =>
          cases spells with
          | token matched others =>
              cases matched
              cases others
              simp [readElements, nextElement, bind, Except.bind, pure, Except.pure, eq_comm]
  | cons item items ih =>
      cases limit with
      | zero => exact absurd enough (Nat.not_lt_zero _)
      | succ limit =>
          rcases spells.item with ⟨front, behind, separator, ofItem, others⟩
          have ofOthers {elements : List α} :
              readElements read limit false behind = .ok (elements, later) ↔
                List.Forall₂ fits items elements ∧ later = rest :=
            ih (Nat.lt_of_succ_lt_succ enough) others
          rw [readElements_succ (nextElement_item separator ofItem), both_eq_ok_iff]
          constructor
          case mp =>
            rintro ⟨element, middle, elements, readFirst, readOthers, rfl⟩
            rcases (exact ofItem).mp readFirst with ⟨fitsFirst, rfl⟩
            rcases ofOthers.mp readOthers with ⟨fitsOthers, rfl⟩
            exact ⟨.cons fitsFirst fitsOthers, rfl⟩
          case mpr =>
            rintro ⟨fits, rfl⟩
            rcases List.forall₂_cons_left_iff.mp fits with
              ⟨element, elements, fitsFirst, fitsOthers, rfl⟩
            exact ⟨element, behind, elements, (exact ofItem).mpr ⟨fitsFirst, rfl⟩,
              ofOthers.mpr ⟨fitsOthers, rfl⟩, rfl⟩

/-- A list has more tokens behind its bracket than elements. -/
theorem length_items_lt (first : Bool) (items : List Tree) :
    items.length < (Tree.itemLexemes first items).length := by
  induction items generalizing first with
  | nil => simp [Tree.itemLexemes]
  | cons item items ih =>
      have others := ih false
      have nonempty : 0 < item.lexemes.length := by cases item <;> simp [Tree.lexemes]
      simp only [Tree.itemLexemes, List.length_append, List.length_cons]
      omega

theorem readList_exact {item : Shape} {read : Reader item.Value} (exact : Exact read item.Fits)
    (expected : String) : Exact (readList read expected) (Shape.list item).Fits := by
  intro tree tokens rest spells values later
  cases tree with
  | list items =>
      cases spells with
      | @token _ _ _ _ _ tokens _ matched others =>
          cases matched
          have enough : items.length < tokens.size + 1 := by
            have longer := length_items_lt true items
            have size := others.size
            omega
          simpa [readList, Shape.Fits] using readElements_iff exact enough others
  | _ =>
      cases spells with
      | token matched others =>
          cases matched
          simp [readList, Shape.Fits]

/-! ## Objects -/

/-- At the front of a member an object goes on, behind the comma if there has to be one. -/
theorem nextKey_member {first : Bool} {tokens later : Tokens} {start stop : Position}
    {value : Except Fault String}
    (separator : Spells (if first then [] else [.comma]) tokens
      (.token start (.text value) stop later)) :
    nextKey first tokens = .ok (.goesOn (.token start (.text value) stop later)) := by
  rcases separator.separator with ⟨rfl, rfl⟩ | ⟨rfl, _, _, rfl⟩ <;> rfl

/-- Read a member behind its key: the field with the key accepts it, or it is skipped. -/
def readMember {σ : Type} (accept : String → σ → Tokens → Option (Except Fault (σ × Tokens)))
    (key : String) (slots : σ) (tokens : Tokens) : Except Fault (σ × Tokens) :=
  match accept key slots tokens with
  | some result => result
  | none => do
      let tokens ← readColon tokens
      let tokens ← skipValue tokens
      return (slots, tokens)

/-- Members are read one by one. -/
theorem readMembers_succ {σ : Type}
    (accept : String → σ → Tokens → Option (Except Fault (σ × Tokens))) (limit : Nat)
    {first : Bool} (slots : σ) {tokens later : Tokens} {start stop : Position} {key : String}
    (separator : Spells (if first then [] else [.comma]) tokens
      (.token start (.text (.ok key)) stop later)) :
    readMembers accept (limit + 1) first slots tokens = (do
      let (slots, tokens) ← readMember accept key slots later
      readMembers accept limit false slots tokens) := by
  rw [readMembers, nextKey_member separator]
  simp only [readKey, readMember, bind, Except.bind, Except.map]
  cases accept key slots later with
  | some result => rfl
  | none =>
      cases readColon later with
      | error fault => rfl
      | ok tokens =>
          dsimp only
          cases skipValue tokens <;> rfl

/-- Reading a single member behind its key does to the slots of some fields what the member stands
for, and stops right behind the member. -/
def AcceptsExactly (fields : Fields) : Prop :=
  ∀ {key : String} {tree : Tree} {tokens rest : Tokens},
    Spells (.colon :: tree.lexemes) tokens rest →
    ∀ {slots filled : fields.Slots} {later : Tokens},
      readMember fields.accept key slots tokens = .ok (filled, later) ↔
        fields.Takes [(key, tree)] slots filled ∧ later = rest

theorem readMembers_iff {fields : Fields} (exact : AcceptsExactly fields)
    {members : List (String × Tree)} {limit : Nat} (enough : members.length < limit) {first : Bool}
    {tokens rest : Tokens} (spells : Spells (Tree.memberLexemes first members) tokens rest)
    {slots filled : fields.Slots} {later : Tokens} :
    (∃ stop, readMembers fields.accept limit first slots tokens = .ok (filled, stop, later)) ↔
      fields.Takes members slots filled ∧ later = rest := by
  induction members generalizing limit first tokens slots with
  | nil =>
      cases limit with
      | zero => exact absurd enough (Nat.not_lt_zero _)
      | succ limit =>
          cases spells with
          | token matched others =>
              cases matched
              cases others
              simp [readMembers, nextKey, bind, Except.bind, pure, Except.pure,
                fields.takes_nil_iff, eq_comm]
  | cons member members ih =>
      rcases member with ⟨key, tree⟩
      cases limit with
      | zero => exact absurd enough (Nat.not_lt_zero _)
      | succ limit =>
          rcases spells.member with ⟨start, stop, inner, behind, separator, ofValue, others⟩
          have ofOthers {middle : fields.Slots} :
              (∃ stop, readMembers fields.accept limit false middle behind
                  = .ok (filled, stop, later)) ↔
                fields.Takes members middle filled ∧ later = rest :=
            ih (Nat.lt_of_succ_lt_succ enough) others
          rw [readMembers_succ fields.accept limit slots separator]
          simp only [bind_eq_ok_iff, Prod.exists]
          constructor
          case mp =>
            rintro ⟨_, middle, _, readFirst, readOthers⟩
            rcases (exact ofValue).mp readFirst with ⟨takesFirst, rfl⟩
            rcases ofOthers.mp ⟨_, readOthers⟩ with ⟨takesOthers, rfl⟩
            exact ⟨fields.takes_append_iff.mpr ⟨middle, takesFirst, takesOthers⟩, rfl⟩
          case mpr =>
            rintro ⟨takes, rfl⟩
            have cut : (key, tree) :: members = [(key, tree)] ++ members := rfl
            rw [cut, fields.takes_append_iff] at takes
            rcases takes with ⟨middle, takesFirst, takesOthers⟩
            rcases ofOthers.mpr ⟨takesOthers, rfl⟩ with ⟨final, readOthers⟩
            exact ⟨final, middle, behind, (exact ofValue).mpr ⟨takesFirst, rfl⟩, readOthers⟩

/-- An object has more tokens behind its brace than members. -/
theorem length_members_lt (first : Bool) (members : List (String × Tree)) :
    members.length < (Tree.memberLexemes first members).length := by
  induction members generalizing first with
  | nil => simp [Tree.memberLexemes]
  | cons member members ih =>
      have others := ih false
      rcases member with ⟨key, tree⟩
      simp only [Tree.memberLexemes, List.length_append, List.length_cons]
      omega

end RpcStubs.Json
