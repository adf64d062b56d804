import RpcStubs.Text.Cut

/-!
# Exact cuts

Cutting at a separator and writing separators between pieces undo each other: the pieces of a text
are the one way to write it as pieces without a separator and with one between them
(`pieces_eq_iff`). A cut at the first separator finds the one way to write a text as a separator
with something before it that holds none (`cutAtFirst?_eq_some_iff`).
-/

namespace RpcStubs.Text

variable {separator : Char} {cs : List Char}

/-! ## Pieces -/

theorem pieces_eq_splitOn (separator : Char) (cs : List Char) :
    pieces separator cs = cs.splitOn separator := by
  induction cs with
  | nil => rfl
  | cons c rest ih =>
      rw [List.splitOn_cons_eq_if_modifyHead, ← ih, pieces]
      by_cases same : c = separator
      · simp [same]
      · cases found : pieces separator rest with
        | nil => exact absurd found (pieces_ne_nil separator rest)
        | cons piece later => simp [same]

/-- Pieces with separators between them make up the text. -/
theorem intercalate_pieces (separator : Char) (cs : List Char) :
    [separator].intercalate (pieces separator cs) = cs := by
  rw [pieces_eq_splitOn]
  exact List.intercalate_splitOn separator

theorem not_mem_of_mem_pieces {piece : List Char} (member : piece ∈ pieces separator cs) :
    separator ∉ piece := by
  induction cs generalizing piece with
  | nil =>
      obtain rfl := List.mem_singleton.mp member
      exact List.not_mem_nil
  | cons c rest ih =>
      rw [pieces] at member
      by_cases same : c = separator
      · rw [if_pos same] at member
        rcases List.mem_cons.mp member with rfl | later
        · exact List.not_mem_nil
        · exact ih later
      · rw [if_neg same] at member
        cases found : pieces separator rest with
        | nil => exact absurd found (pieces_ne_nil separator rest)
        | cons first later =>
            rw [found] at member ih
            rcases List.mem_cons.mp member with rfl | behind
            · intro inPiece
              rcases List.mem_cons.mp inPiece with rfl | inFirst
              · exact same rfl
              · exact ih List.mem_cons_self inFirst
            · exact ih (List.mem_cons_of_mem _ behind)

/-- The pieces of a text are those that hold no separator and make it up. -/
theorem pieces_eq_iff {parts : List (List Char)} :
    pieces separator cs = parts ↔
      parts ≠ [] ∧ (∀ part ∈ parts, separator ∉ part) ∧ [separator].intercalate parts = cs := by
  constructor
  · rintro rfl
    exact ⟨pieces_ne_nil separator cs, fun _ => not_mem_of_mem_pieces,
      intercalate_pieces separator cs⟩
  · rintro ⟨present, apart, rfl⟩
    rw [pieces_eq_splitOn]
    exact List.splitOn_intercalate separator apart present

/-- What stands at the end of a text, without a separator, ends one of its pieces. -/
theorem exists_mem_pieces_append {back : List Char} (absent : separator ∉ back)
    (front : List Char) : ∃ opening, opening ++ back ∈ pieces separator (front ++ back) := by
  induction front with
  | nil =>
      have whole := pieces_append_of_not_mem absent []
      rw [List.append_nil] at whole
      refine ⟨[], ?_⟩
      rw [List.nil_append, whole]
      simp [pieces]
  | cons c rest ih =>
      rcases ih with ⟨opening, member⟩
      rw [List.cons_append, pieces]
      by_cases same : c = separator
      · rw [if_pos same]
        exact ⟨opening, List.mem_cons_of_mem _ member⟩
      · rw [if_neg same]
        cases found : pieces separator (rest ++ back) with
        | nil => exact absurd found (pieces_ne_nil separator _)
        | cons piece later =>
            rw [found] at member
            rcases List.mem_cons.mp member with rfl | behind
            · exact ⟨c :: opening, List.mem_cons_self⟩
            · exact ⟨opening, List.mem_cons_of_mem _ behind⟩

/-! ## The first separator -/

theorem cutAtFirst?_eq_none_iff : cutAtFirst? separator cs = none ↔ separator ∉ cs := by
  induction cs with
  | nil => simp [cutAtFirst?]
  | cons c rest ih =>
      rw [cutAtFirst?, List.mem_cons, not_or]
      by_cases same : c = separator
      · simp [same]
      · rw [if_neg same, Option.map_eq_none_iff, ih]
        exact (and_iff_right (Ne.symm same)).symm

theorem cutAtFirst?_append_cons {before : List Char} (absent : separator ∉ before)
    (after : List Char) :
    cutAtFirst? separator (before ++ separator :: after) = some (before, after) := by
  induction before with
  | nil => simp [cutAtFirst?]
  | cons c rest ih =>
      rcases not_or.mp (mt List.mem_cons.mpr absent) with ⟨different, restAbsent⟩
      rw [List.cons_append, cutAtFirst?, if_neg (Ne.symm different), ih restAbsent]
      rfl

/-- A cut finds the first separator. -/
theorem cutAtFirst?_eq_some_iff {before after : List Char} :
    cutAtFirst? separator cs = some (before, after) ↔
      cs = before ++ separator :: after ∧ separator ∉ before := by
  constructor
  · exact cutAtFirst?_eq_some
  · rintro ⟨rfl, absent⟩
    exact cutAtFirst?_append_cons absent after

end RpcStubs.Text
