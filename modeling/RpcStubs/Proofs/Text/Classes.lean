import RpcStubs.Proofs.Text.Bits
import RpcStubs.Text.Alphabetic

/-!
# Classes of alphanumeric characters

Identifiers are made of letters and decimal digits, but more characters count as alphanumeric:
letter numbers, other numbers, and alphabetic characters that are no letters. As the tables show, no
character belongs to both sides (`isStray_eq_false_of_plain`).
-/

namespace RpcStubs.Text

/-- What an identifier is made of. -/
def plainRanges : Ranges :=
  letterRanges ++ decimalDigitRanges

/-- What else is alphanumeric. -/
def strayRanges : Ranges :=
  letterNumberRanges ++ (otherNumberRanges ++ otherAlphabeticRanges)

/-- Whether a character is alphanumeric without being a letter or a decimal digit: a number of
another kind, or an alphabetic mark or symbol. -/
def isStray (c : Char) : Bool :=
  isLetterNumber c || (isOtherNumber c || otherAlphabeticRanges.covers c)

theorem isStray_eq_covers (c : Char) : isStray c = strayRanges.covers c := by
  rw [strayRanges, Ranges.covers_append, Ranges.covers_append]
  rfl

theorem isAlphanumeric_iff {c : Char} :
    isAlphanumeric c = true ↔
      isLetter c = true ∨ isDecimalDigit c = true ∨ isStray c = true := by
  simp only [isAlphanumeric, isAlphabetic, isNumeric, isStray, Bool.or_eq_true]
  grind

theorem isStray_eq_false_of_plain {c : Char}
    (plain : isLetter c = true ∨ isDecimalDigit c = true) : isStray c = false := by
  have covered : plainRanges.covers c = true := by
    rw [plainRanges, Ranges.covers_append, Bool.or_eq_true]
    exact plain
  rw [isStray_eq_covers]
  exact Ranges.covers_eq_false_of_bits_and_eq_zero
    (by decide +kernel : plainRanges.bits &&& strayRanges.bits = 0) covered

end RpcStubs.Text
