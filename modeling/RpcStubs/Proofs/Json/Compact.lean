import RpcStubs.Proofs.Json.Grammar

/-!
# The compact text of a value

A compact text is one of the many texts of its tree: what stands for a character inside quotes is one
of the ways to write it (`charWritten_escapeChar`), and commas stand where they have to. So every
value of a shape has a text that writes its tree (`Shape.writtenIn_compact`).
-/

namespace RpcStubs.Json

/-! ## Characters and texts -/

theorem isHexDigit_hexDigit {n : Nat} (small : n < 16) : IsHexDigit n (Text.hexDigit n) := by
  have all : ∀ m ∈ List.range 16, "0123456789abcdef".toList[m]? = some (Text.hexDigit m) := by
    decide
  exact .inl (all n (List.mem_range.mpr small))

theorem codeWritten_hexDigits4 {n : Nat} (small : n < 0x10000) :
    CodeWritten n ('\\' :: 'u' :: Text.hexDigits4 n) := by
  have digit (m : Nat) : IsHexDigit (m % 16) (Text.hexDigit (m % 16)) :=
    isHexDigit_hexDigit (Nat.mod_lt m (by decide))
  have value : n / 0x1000 % 16 * 0x1000 + n / 0x100 % 16 * 0x100 + n / 0x10 % 16 * 0x10 + n % 16
      = n := by
    omega
  have written := CodeWritten.digits (digit (n / 0x1000)) (digit (n / 0x100)) (digit (n / 0x10))
    (digit n)
  rwa [value] at written

/-- An escaped character is one of the ways to write it. -/
theorem charWritten_escapeChar (c : Char) : CharWritten c (escapeChar c) := by
  unfold escapeChar
  split
  case h_8 notQuote notBackslash _ _ _ _ _ =>
    split
    next control => exact .code (codeWritten_hexDigits4 (Nat.lt_trans control (by decide)))
    next visible => exact .plain (Nat.not_lt.mp visible) notQuote notBackslash
  all_goals exact .short (by decide)

theorem written_textChars (s : String) : (Lexeme.text s).Written (textChars s) := by
  have characters : List.Forall₂ CharWritten s.toList (s.toList.map escapeChar) := by
    rw [List.forall₂_map_right_iff, List.forall₂_same]
    exact fun c _ => charWritten_escapeChar c
  have written := Lexeme.Written.text characters
  rwa [← List.flatMap_def] at written

/-! ## Tokens in order -/

theorem LexemesWritten.space {lexemes : List Lexeme} {gap cs : List Char} (space : Space gap)
    (written : LexemesWritten lexemes cs) : LexemesWritten lexemes (gap ++ cs) := by
  have joined {other : List Char} (otherSpace : Space other) : Space (gap ++ other) := by
    intro c member
    rcases List.mem_append.mp member with inGap | inOther
    · exact space c inGap
    · exact otherSpace c inOther
  cases written with
  | done otherSpace => exact .done (joined otherSpace)
  | next otherSpace first others =>
      rw [← List.append_assoc, ← List.append_assoc]
      exact .next (joined otherSpace) first others

theorem LexemesWritten.append {first second : List Lexeme} {cs ds : List Char}
    (written : LexemesWritten first cs) (others : LexemesWritten second ds) :
    LexemesWritten (first ++ second) (cs ++ ds) := by
  induction written with
  | done space => exact others.space space
  | next space here _ ih =>
      rw [List.append_assoc]
      exact .next space here ih

theorem LexemesWritten.cons {lexeme : Lexeme} {lexemes : List Lexeme} {cs ds : List Char}
    (written : lexeme.Written cs) (others : LexemesWritten lexemes ds) :
    LexemesWritten (lexeme :: lexemes) (cs ++ ds) :=
  @LexemesWritten.next lexeme lexemes [] cs ds nofun written others

theorem LexemesWritten.single {lexeme : Lexeme} {cs : List Char} (written : lexeme.Written cs) :
    LexemesWritten [lexeme] cs := by
  have alone := LexemesWritten.cons written (@LexemesWritten.done [] nofun)
  rwa [List.append_nil] at alone

/-! ## Trees -/

/-- The compact text of a tree writes the tree. -/
def Tree.CompactWritten (tree : Tree) : Prop :=
  LexemesWritten tree.lexemes tree.chars

/-- Pieces with a comma before each of them. -/
def led (pieces : List (List Char)) : List Char :=
  pieces.flatMap (',' :: ·)

theorem separated_cons (piece : List Char) (pieces : List (List Char)) :
    separated (piece :: pieces) = piece ++ led pieces := by
  induction pieces generalizing piece with
  | nil => simp [separated, led]
  | cons next pieces ih => simp [separated, led, ih]

theorem led_cons (piece : List Char) (pieces : List (List Char)) :
    led (piece :: pieces) = [','] ++ (piece ++ led pieces) := by
  simp [led]

theorem compactWritten_text (value : String) : (Tree.text value).CompactWritten :=
  .single (written_textChars value)

theorem written_itemLexemes {items : List Tree} (each : ∀ item ∈ items, item.CompactWritten) :
    LexemesWritten (Tree.itemLexemes false items) (led (Tree.charsOfItems items) ++ [']']) := by
  induction items with
  | nil => exact .single .listClose
  | cons item items ih =>
      have ofItem := each item List.mem_cons_self
      have others := ih fun other member => each other (List.mem_cons_of_mem item member)
      rw [Tree.charsOfItems, led_cons, List.append_assoc, List.append_assoc]
      exact .cons .comma (ofItem.append others)

theorem compactWritten_list {items : List Tree} (each : ∀ item ∈ items, item.CompactWritten) :
    (Tree.list items).CompactWritten := by
  have inside : LexemesWritten (Tree.itemLexemes true items)
      (separated (Tree.charsOfItems items) ++ [']']) := by
    cases items with
    | nil => exact .single .listClose
    | cons item items =>
        have ofItem := each item List.mem_cons_self
        have others := written_itemLexemes fun other member =>
          each other (List.mem_cons_of_mem item member)
        rw [Tree.charsOfItems, separated_cons, List.append_assoc]
        exact ofItem.append others
  have whole := LexemesWritten.cons .listOpen inside
  exact whole

/-- A key, a colon and a value. -/
theorem written_member (key : String) {value : Tree} (ofValue : value.CompactWritten) :
    LexemesWritten (.text key :: .colon :: value.lexemes) (textChars key ++ ':' :: value.chars) :=
  .cons (written_textChars key) (.cons .colon ofValue)

theorem written_memberLexemes {members : List (String × Tree)}
    (each : ∀ member ∈ members, member.2.CompactWritten) :
    LexemesWritten (Tree.memberLexemes false members)
      (led (Tree.charsOfMembers members) ++ ['\x7d']) := by
  induction members with
  | nil => exact .single .objectClose
  | cons member members ih =>
      rcases member with ⟨key, value⟩
      have ofValue := each (key, value) List.mem_cons_self
      have others := ih fun other inside => each other (List.mem_cons_of_mem _ inside)
      rw [Tree.charsOfMembers, led_cons, List.append_assoc, List.append_assoc]
      exact .cons .comma ((written_member key ofValue).append others)

theorem compactWritten_object {members : List (String × Tree)}
    (each : ∀ member ∈ members, member.2.CompactWritten) :
    (Tree.object members).CompactWritten := by
  have inside : LexemesWritten (Tree.memberLexemes true members)
      (separated (Tree.charsOfMembers members) ++ ['\x7d']) := by
    cases members with
    | nil => exact .single .objectClose
    | cons member members =>
        rcases member with ⟨key, value⟩
        have ofValue := each (key, value) List.mem_cons_self
        have others := written_memberLexemes fun other inside =>
          each other (List.mem_cons_of_mem _ inside)
        rw [Tree.charsOfMembers, separated_cons, List.append_assoc]
        exact (written_member key ofValue).append others
  have whole := LexemesWritten.cons .objectOpen inside
  exact whole

/-! ## Values of shapes -/

mutual

theorem Shape.compactWritten : (shape : Shape) → (value : shape.Value) →
    (shape.tree value).CompactWritten
  | .text, value => compactWritten_text value
  | .list item, values => by
      apply compactWritten_list
      intro tree member
      rcases List.mem_map.mp member with ⟨value, _, rfl⟩
      exact Shape.compactWritten item value
  | .record _ fields, values => compactWritten_object (Fields.compactWritten fields values)

theorem Fields.compactWritten : (fields : Fields) → (values : fields.Values) →
    ∀ member ∈ fields.members values, member.2.CompactWritten
  | .done, _ => nofun
  | .field key _ shape rest, (value, values) => by
      intro member inside
      rcases List.mem_cons.mp inside with rfl | later
      · exact Shape.compactWritten shape value
      · exact Fields.compactWritten rest values member later

end

/-- The compact text of a value of a shape writes the tree of the value. -/
theorem Shape.writtenIn_compact (shape : Shape) (value : shape.Value) :
    (shape.tree value).WrittenIn (shape.tree value).compact := by
  rw [Tree.WrittenIn, Tree.compact, String.toList_ofList]
  exact shape.compactWritten value

end RpcStubs.Json
