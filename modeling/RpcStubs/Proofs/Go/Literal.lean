import RpcStubs.Go.Literal

/-!
# Reading string literals

A reader goes through a literal one written character at a time. A plain character stands for itself
(`readRest?_plain`), an escape takes up more characters than the one that it denotes
(`exists_of_readRest?_backslash`). So a literal with an escape in it is longer than what it denotes,
and characters between quotes denote themselves exactly where all of them are plain
(`read?_quoted_iff`). That goes for escapes of every kind, also for those that the reader refuses
because no writer here uses them: a number in hexadecimal or octal digits takes up more than the
character it stands for. The writer escapes what is not plain, and every text is denoted by the
literal that is written for it, whatever stands behind that (`denotes_write`). So no literal is the
beginning of another (`eq_of_write_append_eq`), and none has a control character in it
(`isControl_of_mem_write`).
-/

namespace RpcStubs.Go.Literal

/-- A character that may stand for itself in a literal: no quote, no backslash and no line feed. -/
def Plain (c : Char) : Prop :=
  c ≠ '"' ∧ c ≠ '\\' ∧ c ≠ '\n'

instance (c : Char) : Decidable (Plain c) :=
  inferInstanceAs (Decidable (_ ∧ _ ∧ _))

/-- The character that a single letter denotes behind a backslash. -/
def shortEscape? : Char → Option Char
  | '"' => some '"'
  | '\\' => some '\\'
  | 'n' => some '\n'
  | 'r' => some '\r'
  | 't' => some '\t'
  | _ => none

/-! ## One written character -/

theorem readRest?_quote (rest : List Char) : readRest? ('"' :: rest) = some ([], rest) :=
  rfl

theorem readRest?_plain {c : Char} (plain : Plain c) (rest : List Char) :
    readRest? (c :: rest) = (readRest? rest).map fun read => (c :: read.1, read.2) := by
  rcases plain with ⟨notQuote, notBackslash, notLineFeed⟩
  cases inner : readRest? rest <;> simp [readRest?, *]

theorem readRest?_short {letter : Char} (short : letter ≠ 'u') (rest : List Char) :
    readRest? ('\\' :: letter :: rest) =
      (shortEscape? letter).bind fun c =>
        (readRest? rest).map fun read => (c :: read.1, read.2) := by
  cases inner : readRest? rest <;> fun_cases shortEscape? letter <;> simp_all [readRest?]

theorem readRest?_code (a b c d : Char) (rest : List Char) :
    readRest? ('\\' :: 'u' :: a :: b :: c :: d :: rest) =
      (Text.hexValue4? a b c d).bind fun code => (readRest? rest).bind fun read =>
        if code.isValidChar then some (Char.ofNat code :: read.1, read.2) else none :=
  rfl

/-- An escape denotes one character, and reading goes on behind it with less than stood behind the
backslash. -/
theorem exists_of_readRest?_backslash {rest text after : List Char}
    (read : readRest? ('\\' :: rest) = some (text, after)) :
    ∃ c later behind, text = c :: later ∧ behind.length < rest.length
      ∧ readRest? behind = some (later, after) := by
  rcases rest with _ | ⟨letter, rest⟩
  · cases read
  by_cases code : letter = 'u'
  · subst code
    match rest, read with
    | [], read | [_], read | [_, _], read | [_, _, _], read => simp [readRest?] at read
    | a :: b :: c :: d :: behind, read =>
        rw [readRest?_code] at read
        rcases Option.bind_eq_some_iff.mp read with ⟨code, _, read⟩
        rcases Option.bind_eq_some_iff.mp read with ⟨⟨later, _⟩, inner, read⟩
        split at read
        · cases read
          exact ⟨_, later, behind, rfl, by simp only [List.length_cons]; omega, inner⟩
        · cases read
  · rw [readRest?_short code] at read
    rcases Option.bind_eq_some_iff.mp read with ⟨c, _, read⟩
    rcases Option.map_eq_some_iff.mp read with ⟨⟨later, _⟩, inner, read⟩
    cases read
    exact ⟨c, later, rest, rfl, Nat.lt_succ_self _, inner⟩

/-- A literal begins with its closing quote, a plain character or an escape. -/
theorem quote_or_plain_or_backslash {c : Char} {rest text after : List Char}
    (read : readRest? (c :: rest) = some (text, after)) : c = '"' ∨ Plain c ∨ c = '\\' := by
  by_cases plain : Plain c
  · exact .inr (.inl plain)
  · have notLineFeed : c ≠ '\n' := by
      rintro rfl
      cases read
    unfold Plain at plain
    grind

/-! ## Whole literals -/

/-- What a literal denotes is shorter than the literal. -/
theorem length_of_readRest? : ∀ {input text after : List Char},
    readRest? input = some (text, after) → text.length + after.length < input.length
  | c :: rest, text, after, read => by
      rcases quote_or_plain_or_backslash read with rfl | plain | rfl
      · rw [readRest?_quote] at read
        cases read
        simp
      · rw [readRest?_plain plain] at read
        rcases Option.map_eq_some_iff.mp read with ⟨⟨later, _⟩, inner, read⟩
        cases read
        have shorter := length_of_readRest? inner
        simp only [List.length_cons]
        omega
      · rcases exists_of_readRest?_backslash read with ⟨d, later, behind, rfl, taken, inner⟩
        have shorter := length_of_readRest? inner
        simp only [List.length_cons]
        omega
termination_by input => input.length

/-- Characters between quotes denote themselves, and no more than these quotes close, exactly where
all of them are plain. -/
theorem read?_quoted_iff {cs rest : List Char} :
    read? ('"' :: cs ++ '"' :: rest) = some (cs, rest) ↔ ∀ c ∈ cs, Plain c := by
  rw [List.cons_append, read?]
  induction cs with
  | nil => simp [readRest?_quote]
  | cons c cs ih =>
      rw [List.cons_append, List.forall_mem_cons]
      constructor
      · intro read
        rcases quote_or_plain_or_backslash read with rfl | plain | rfl
        · cases read
        · rw [readRest?_plain plain] at read
          rcases Option.map_eq_some_iff.mp read with ⟨⟨later, _⟩, inner, read⟩
          cases read
          exact ⟨plain, ih.mp inner⟩
        · -- The escape takes up too much for what is denoted to be as long as what is written.
          rcases exists_of_readRest?_backslash read with ⟨d, later, behind, same, taken, inner⟩
          have shorter := length_of_readRest? inner
          have lengths := congrArg List.length same
          simp only [List.length_cons, List.length_append] at lengths taken
          omega
      · rintro ⟨plain, plains⟩
        rw [readRest?_plain plain, ih.mpr plains]
        rfl

/-! ## Written literals -/

/-- Some code is a literal for a text: wherever it stands it is read as the text, and reading stops
at its end. -/
def Denotes (literal text : String) : Prop :=
  ∀ after : String, read? (literal ++ after).toList = some (text.toList, after.toList)

/-- What is written for a character is read as this character. -/
theorem readRest?_escapeChar (c : Char) (rest : List Char) :
    readRest? (escapeChar c ++ rest) = (readRest? rest).map fun read => (c :: read.1, read.2) := by
  unfold escapeChar
  split
  case h_6 notQuote notBackslash notLineFeed _ _ =>
    split
    next control =>
      have small : c.toNat < 0x10000 := by
        simp only [isControl, Bool.or_eq_true, Bool.and_eq_true, decide_eq_true_eq] at control
        omega
      have valid : c.toNat.isValidChar := c.valid
      simp only [Text.hexDigits4, List.cons_append, List.nil_append, readRest?_code,
        Text.hexValue4?_hexDigits4 small, Option.bind_some, if_pos valid, Char.ofNat_toNat]
      cases readRest? rest <;> rfl
    next => exact readRest?_plain ⟨notQuote, notBackslash, notLineFeed⟩ rest
  all_goals exact readRest?_short (by decide) rest

/-- What is written for some characters is read as these, up to the closing quote. -/
theorem readRest?_flatMap_escapeChar (cs rest : List Char) :
    readRest? (cs.flatMap escapeChar ++ '"' :: rest) = some (cs, rest) := by
  induction cs with
  | nil => exact readRest?_quote rest
  | cons c cs ih =>
      rw [List.flatMap_cons, List.append_assoc, readRest?_escapeChar, ih]
      rfl

/-- The literal that is written for a text denotes this text. -/
theorem denotes_write (s : String) : Denotes (write s) s := by
  intro after
  rw [String.toList_append, toList_write, writeChars, List.cons_append, List.cons_append,
    List.append_assoc]
  exact readRest?_flatMap_escapeChar s.toList after.toList

/-- A literal and what stands behind it are told apart by reading. -/
theorem eq_of_write_append_eq {first second back other : String}
    (same : write first ++ back = write second ++ other) : first = second ∧ back = other := by
  have read := denotes_write first back
  rw [same, denotes_write second other] at read
  rcases Prod.mk.inj (Option.some.inj read) with ⟨texts, rests⟩
  exact ⟨(String.toList_inj.mp texts).symm, (String.toList_inj.mp rests).symm⟩

theorem write_injective : Function.Injective write :=
  fun _ _ same => (eq_of_write_append_eq (congrArg (· ++ "") same)).1

theorem isControl_hexDigit {n : Nat} (small : n < 16) : isControl (Text.hexDigit n) = false := by
  have all : ∀ m ∈ List.range 16, isControl (Text.hexDigit m) = false := by decide
  exact all n (List.mem_range.mpr small)

/-- What is written for a character has no control character in it. -/
theorem isControl_of_mem_escapeChar {c d : Char} (member : d ∈ escapeChar c) :
    isControl d = false := by
  unfold escapeChar at member
  split at member
  case h_6 =>
    split at member
    next =>
      have digit (m : Nat) : m % 16 < 16 := Nat.mod_lt _ (by decide)
      simp only [Text.hexDigits4, List.mem_cons, List.not_mem_nil, or_false] at member
      rcases member with rfl | rfl | rfl | rfl | rfl | rfl
      · decide
      · decide
      all_goals exact isControl_hexDigit (digit _)
    next plain =>
      obtain rfl := List.mem_singleton.mp member
      exact Bool.eq_false_iff.mpr plain
  all_goals
    simp only [List.mem_cons, List.not_mem_nil, or_false] at member
    rcases member with rfl | rfl <;> decide

theorem isControl_of_mem_write {s : String} {c : Char} (member : c ∈ (write s).toList) :
    isControl c = false := by
  rw [toList_write, writeChars, List.cons_append, List.mem_cons, List.mem_append,
    List.mem_singleton, List.mem_flatMap] at member
  rcases member with rfl | ⟨d, _, inEscape⟩ | rfl
  · decide
  · exact isControl_of_mem_escapeChar inEscape
  · decide

end RpcStubs.Go.Literal
