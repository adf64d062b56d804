import RpcStubs.Text.Blank

/-!
# Exact trimming

What trimming leaves neither begins nor ends with a blank, and there were only blanks around it.
Nothing else is like that (`trimChars_eq_iff`).
-/

namespace RpcStubs.Text

/-- Some characters that are all blank. -/
def Blanks (cs : List Char) : Prop :=
  ∀ c ∈ cs, isBlank c = true

instance (cs : List Char) : Decidable (Blanks cs) :=
  List.decidableBAll (isBlank · = true) cs

/-- Some characters with no blank at either end. -/
def Tight (cs : List Char) : Prop :=
  (∀ c ∈ cs.head?, isBlank c = false) ∧ ∀ c ∈ cs.getLast?, isBlank c = false

instance (cs : List Char) : Decidable (Tight cs) :=
  @instDecidableAnd _ _ cs.head?.decidableForallMem cs.getLast?.decidableForallMem

theorem blanks_nil : Blanks [] :=
  nofun

/-- What begins and ends tight is tight, whatever stands between. -/
theorem Tight.append {front back : List Char} (opening : Tight front) (opened : front ≠ [])
    (middle : List Char) (closing : Tight back) (closed : back ≠ []) :
    Tight (front ++ middle ++ back) := by
  constructor
  · have first : front.head?.isSome = true := by simpa using opened
    rw [List.append_assoc, List.head?_append, Option.or_of_isSome first]
    exact opening.1
  · have last : back.getLast?.isSome = true := by simpa using closed
    rw [List.getLast?_append, Option.or_of_isSome last]
    exact closing.2

/-! ## Blanks at the front -/

/-- Blanks are dropped up to the first character that is none. -/
theorem dropWhile_blanks_append {front back : List Char} (blanks : Blanks front)
    (opens : ∀ c ∈ back.head?, isBlank c = false) :
    (front ++ back).dropWhile isBlank = back := by
  rw [List.dropWhile_append_of_pos blanks]
  cases back with
  | nil => rfl
  | cons c rest =>
      have first : isBlank c = false := opens c rfl
      exact List.dropWhile_cons_of_neg (by simp [first])

theorem head?_dropWhile_isBlank (cs : List Char) :
    ∀ c ∈ (cs.dropWhile isBlank).head?, isBlank c = false := by
  intro c first
  have stopped := List.head?_dropWhile_not isBlank cs
  rw [Option.mem_def.mp first] at stopped
  simpa using stopped

/-- Some characters are the blanks at their front and what is left without these. -/
theorem exists_blanks_append_dropWhile (cs : List Char) :
    ∃ front, Blanks front ∧ cs = front ++ cs.dropWhile isBlank := by
  refine ⟨cs.takeWhile isBlank, ?_, List.takeWhile_append_dropWhile.symm⟩
  intro c taken
  exact List.all_eq_true.mp List.all_takeWhile c taken

/-! ## Blanks at both ends -/

theorem trimChars_of_blanks {cs : List Char} (blanks : Blanks cs) : trimChars cs = [] := by
  have dropped : (cs ++ []).dropWhile isBlank = [] := dropWhile_blanks_append blanks nofun
  rw [List.append_nil] at dropped
  rw [trimChars, dropped]
  rfl

theorem Blanks.reverse {cs : List Char} (blanks : Blanks cs) : Blanks cs.reverse :=
  fun c member => blanks c (List.mem_reverse.mp member)

/-- Trimming takes off the blanks around what has none at its ends. -/
theorem trimChars_append {before core after : List Char} (blankBefore : Blanks before)
    (tight : Tight core) (blankAfter : Blanks after) :
    trimChars (before ++ core ++ after) = core := by
  cases core with
  | nil =>
      apply trimChars_of_blanks
      intro c member
      rw [List.append_nil] at member
      exact (List.mem_append.mp member).elim (blankBefore c) (blankAfter c)
  | cons first rest =>
      have opens : ∀ c ∈ (first :: rest ++ after).head?, isBlank c = false := tight.1
      have closes : ∀ c ∈ (first :: rest).reverse.head?, isBlank c = false := by
        rw [List.head?_reverse]
        exact tight.2
      rw [trimChars, List.append_assoc, dropWhile_blanks_append blankBefore opens,
        List.reverse_append, dropWhile_blanks_append blankAfter.reverse closes,
        List.reverse_reverse]

/-- Without the blanks at their front some characters are what trimming leaves with blanks behind
it. -/
theorem exists_dropWhile_eq_trimChars_append (cs : List Char) :
    ∃ after, Blanks after ∧ cs.dropWhile isBlank = trimChars cs ++ after := by
  rcases exists_blanks_append_dropWhile (cs.dropWhile isBlank).reverse with
    ⟨after, blanks, reversed⟩
  refine ⟨after.reverse, blanks.reverse, ?_⟩
  rw [trimChars, ← List.reverse_append, ← reversed, List.reverse_reverse]

theorem tight_trimChars (cs : List Char) : Tight (trimChars cs) := by
  constructor
  · rcases exists_dropWhile_eq_trimChars_append cs with ⟨after, _, split⟩
    intro c first
    apply head?_dropWhile_isBlank cs c
    rw [split, List.head?_append]
    exact Option.or_eq_some_iff.mpr (.inl first)
  · rw [trimChars, List.getLast?_reverse]
    exact head?_dropWhile_isBlank _

/-- What trimming leaves is what stands between blanks and has none at its ends. -/
theorem trimChars_eq_iff {cs core : List Char} :
    trimChars cs = core ↔
      Tight core ∧ ∃ before after, Blanks before ∧ Blanks after ∧ cs = before ++ core ++ after := by
  constructor
  · rintro rfl
    rcases exists_blanks_append_dropWhile cs with ⟨before, blankBefore, whole⟩
    rcases exists_dropWhile_eq_trimChars_append cs with ⟨after, blankAfter, split⟩
    refine ⟨tight_trimChars cs, before, after, blankBefore, blankAfter, ?_⟩
    rw [List.append_assoc, ← split]
    exact whole
  · rintro ⟨tight, before, after, blankBefore, blankAfter, rfl⟩
    exact trimChars_append blankBefore tight blankAfter

theorem mem_of_mem_trimChars {cs : List Char} {c : Char} (member : c ∈ trimChars cs) : c ∈ cs := by
  rcases trimChars_eq_iff.mp (rfl : trimChars cs = _) with ⟨_, before, after, _, _, whole⟩
  rw [whole]
  exact List.mem_append_left after (List.mem_append_right before member)

end RpcStubs.Text
