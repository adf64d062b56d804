/-!
# Cutting text at a character

Paths, option lists and file names are all taken apart at one separator. Every function here works
on the characters; the separator itself belongs to neither side of a cut.
-/

namespace RpcStubs.Text

/-- The characters before the first separator, all of them if there is none. -/
def beforeFirst (separator : Char) (cs : List Char) : List Char :=
  cs.takeWhile (· != separator)

/-- The characters after the last separator, all of them if there is none. -/
def afterLast (separator : Char) (cs : List Char) : List Char :=
  (cs.reverse.takeWhile (· != separator)).reverse

/-- The characters before the last separator, all of them if there is none. -/
def beforeLast (separator : Char) (cs : List Char) : List Char :=
  if separator ∈ cs then ((cs.reverse.dropWhile (· != separator)).drop 1).reverse else cs

/-- Both sides of the first separator, if there is one. -/
def cutAtFirst? (separator : Char) : List Char → Option (List Char × List Char)
  | [] => none
  | c :: rest =>
      if c = separator then some ([], rest)
      else (cutAtFirst? separator rest).map fun sides => (c :: sides.1, sides.2)

/-- The pieces between separators: always one more than there are separators. -/
def pieces (separator : Char) : List Char → List (List Char)
  | [] => [[]]
  | c :: rest =>
      if c = separator then [] :: pieces separator rest
      else
        match pieces separator rest with
        | [] => [[c]]
        | piece :: later => (c :: piece) :: later

/-- The characters without the separators at their end. -/
def dropEnd (separator : Char) (cs : List Char) : List Char :=
  (cs.reverse.dropWhile (· == separator)).reverse

theorem beforeFirst_append_cons {separator : Char} {front : List Char} (absent : separator ∉ front)
    (back : List Char) : beforeFirst separator (front ++ separator :: back) = front := by
  have kept : ∀ c ∈ front, (c != separator) = true := by
    intro c member
    exact bne_iff_ne.mpr (ne_of_mem_of_not_mem member absent)
  rw [beforeFirst, List.takeWhile_append_of_pos kept]
  simp

theorem cutAtFirst?_eq_some {separator : Char} {cs before after : List Char}
    (cut : cutAtFirst? separator cs = some (before, after)) :
    cs = before ++ separator :: after ∧ separator ∉ before := by
  induction cs generalizing before with
  | nil => simp [cutAtFirst?] at cut
  | cons c rest ih =>
      simp only [cutAtFirst?] at cut
      split at cut
      next same =>
        simp only [Option.some.injEq, Prod.mk.injEq] at cut
        simp [← cut.1, ← cut.2, same]
      next different =>
        obtain ⟨⟨piece, later⟩, found, sides⟩ := Option.map_eq_some_iff.mp cut
        simp only [Prod.mk.injEq] at sides
        obtain ⟨rfl, rfl⟩ := sides
        obtain ⟨rfl, absent⟩ := ih found
        simp [absent, Ne.symm different]

theorem pieces_ne_nil (separator : Char) (cs : List Char) : pieces separator cs ≠ [] := by
  cases cs with
  | nil => simp [pieces]
  | cons c rest =>
      simp only [pieces]
      split
      · simp
      · split <;> simp

/-- A separator ends the pieces before it. -/
theorem pieces_append_cons (separator : Char) (front back : List Char) :
    pieces separator (front ++ separator :: back) =
      pieces separator front ++ pieces separator back := by
  induction front with
  | nil => simp [pieces]
  | cons c rest ih =>
      simp only [List.cons_append, pieces, ih]
      cases found : pieces separator rest with
      | nil => exact absurd found (pieces_ne_nil separator rest)
      | cons piece later => split <;> rfl

/-- Characters other than the separator go to the front of the first piece. -/
theorem pieces_append_of_not_mem {separator : Char} {front : List Char} (absent : separator ∉ front)
    (back : List Char) :
    pieces separator (front ++ back) =
      (front ++ (pieces separator back).headD []) :: (pieces separator back).tail := by
  induction front with
  | nil =>
      cases found : pieces separator back with
      | nil => exact absurd found (pieces_ne_nil separator back)
      | cons piece later => simp [found]
  | cons c rest ih =>
      rcases not_or.mp (mt List.mem_cons.mpr absent) with ⟨different, restAbsent⟩
      simp [pieces, ih restAbsent, Ne.symm different]

end RpcStubs.Text
