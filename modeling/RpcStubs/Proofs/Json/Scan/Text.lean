import RpcStubs.Json.Scan.Text
import RpcStubs.Proofs.Json.Grammar

/-!
# Scanning what writes a text

Whichever way a character is written inside quotes, the scan gathers that character and goes on right
behind it (`scanText_append`). A text is therefore scanned to its closing quote and read as itself
(`scanText_written`).
-/

namespace RpcStubs.Json

/-! ## Codes -/

theorem hexValue?_of_isHexDigit {n : Nat} {c : Char} (digit : IsHexDigit n c) :
    Text.hexValue? c = some n := by
  have all : ∀ m ∈ List.range 16,
      ("0123456789abcdef".toList[m]?).bind Text.hexValue? = some m
        ∧ ("0123456789ABCDEF".toList[m]?).bind Text.hexValue? = some m := by
    decide
  rcases digit with lower | upper
  · have small : n < 16 := (List.getElem?_eq_some_iff.mp lower).1
    have read := (all n (List.mem_range.mpr small)).1
    rwa [lower, Option.bind_some] at read
  · have small : n < 16 := (List.getElem?_eq_some_iff.mp upper).1
    have read := (all n (List.mem_range.mpr small)).2
    rwa [upper, Option.bind_some] at read

/-- A written code is read as itself. -/
theorem hexValue4?_of_codeWritten {code : Nat} {cs : List Char} (written : CodeWritten code cs) :
    ∃ a b c d, cs = ['\\', 'u', a, b, c, d] ∧ Text.hexValue4? a b c d = some code := by
  cases written with
  | @digits a b c d first second third fourth isFirst isSecond isThird isFourth =>
      refine ⟨first, second, third, fourth, rfl, ?_⟩
      simp only [Text.hexValue4?, hexValue?_of_isHexDigit isFirst,
        hexValue?_of_isHexDigit isSecond, hexValue?_of_isHexDigit isThird,
        hexValue?_of_isHexDigit isFourth, Option.bind_eq_bind, Option.bind_some]
      refine congrArg some ?_
      omega

/-- The code of a character is no half of a pair. -/
theorem toNat_lt_or_lt (c : Char) : c.toNat < 0xD800 ∨ 0xDFFF < c.toNat ∧ c.toNat < 0x110000 :=
  c.valid

theorem isTrailing_toNat (c : Char) : isTrailing c.toNat = false := by
  have range := toNat_lt_or_lt c
  simp only [isTrailing, Bool.and_eq_false_iff, decide_eq_false_iff_not]
  omega

theorem isLeading_toNat (c : Char) : isLeading c.toNat = false := by
  have range := toNat_lt_or_lt c
  simp only [isLeading, Bool.and_eq_false_iff, decide_eq_false_iff_not]
  omega

/-- The two halves that a character with a large code is written by stand for that character. -/
theorem pair_of_large {c : Char} (large : 0x10000 ≤ c.toNat) :
    let leading := 0xD800 + (c.toNat - 0x10000) / 0x400
    let trailing := 0xDC00 + (c.toNat - 0x10000) % 0x400
    isTrailing leading = false ∧ isLeading leading = true ∧ isTrailing trailing = true
      ∧ pairedChar leading trailing = c := by
  have range := toNat_lt_or_lt c
  have sum : (0xD800 + (c.toNat - 0x10000) / 0x400 - 0xD800) * 0x400
      + (0xDC00 + (c.toNat - 0x10000) % 0x400 - 0xDC00) + 0x10000 = c.toNat := by
    omega
  intro leading trailing
  refine ⟨?_, ?_, ?_, ?_⟩
  · simp only [isTrailing, Bool.and_eq_false_iff, decide_eq_false_iff_not, leading]
    omega
  · simp only [isLeading, Bool.and_eq_true, decide_eq_true_eq, leading]
    omega
  · simp only [isTrailing, Bool.and_eq_true, decide_eq_true_eq, trailing]
    omega
  · simp only [pairedChar, leading, trailing, sum, Char.ofNat_toNat]

/-! ## Characters -/

/-- The scan gathers a written character and goes on behind it. -/
theorem scanText_append {c : Char} {cs : List Char} (written : CharWritten c cs)
    (position : Position) (gathered : Gathered) (rest : List Char) :
    ∃ later, scanText position gathered (cs ++ rest) = scanText later (gathered.push c) rest := by
  cases written with
  | plain visible notQuote notBackslash =>
      refine ⟨position.after c, ?_⟩
      rw [List.singleton_append, scanText, if_neg (Nat.not_lt.mpr visible)]
      case x_1 => exact notQuote
      all_goals simp [notBackslash]
  | @short letter listed =>
      refine ⟨position.right 2, ?_⟩
      simp only [shortEscapes, List.mem_cons, Prod.mk.injEq, List.not_mem_nil, or_false] at listed
      rcases listed with ⟨rfl, rfl⟩ | ⟨rfl, rfl⟩ | ⟨rfl, rfl⟩ | ⟨rfl, rfl⟩ | ⟨rfl, rfl⟩ | ⟨rfl, rfl⟩
        | ⟨rfl, rfl⟩ | ⟨rfl, rfl⟩ <;> rfl
  | code digits =>
      rcases hexValue4?_of_codeWritten digits with ⟨first, second, third, fourth, rfl, value⟩
      refine ⟨position.right 6, ?_⟩
      simp [scanText, value, isTrailing_toNat, isLeading_toNat]
  | pair large leadingDigits trailingDigits =>
      rcases hexValue4?_of_codeWritten leadingDigits with ⟨a, b, c, d, rfl, leading⟩
      rcases hexValue4?_of_codeWritten trailingDigits with ⟨e, f, g, h, rfl, trailing⟩
      rcases pair_of_large large with ⟨notTrailing, isLead, isTrail, paired⟩
      refine ⟨position.right 12, ?_⟩
      simp [scanText, leading, trailing, notTrailing, isLead, isTrail, paired]

/-- The scan of written characters ends behind the closing quote with these characters gathered. -/
theorem scanText_flatten {characters : List Char} {pieces : List (List Char)}
    (written : List.Forall₂ CharWritten characters pieces) (position : Position)
    (gathered : List Char) (rest : List Char) :
    ∃ stop, scanText position (.ok gathered) (pieces.flatten ++ '"' :: rest) =
      ⟨.ok (.text (.ok (String.ofList (gathered.reverse ++ characters)))), stop, rest⟩ := by
  induction written generalizing position gathered with
  | nil =>
      refine ⟨position.right 1, ?_⟩
      simp [scanText, Gathered.finish, Except.map]
  | @cons c piece later pieces first others ih =>
      rcases scanText_append first position (.ok gathered) (pieces.flatten ++ '"' :: rest) with
        ⟨behind, scanned⟩
      rcases ih behind (c :: gathered) with ⟨stop, ended⟩
      refine ⟨stop, ?_⟩
      rw [List.flatten_cons, List.append_assoc, scanned]
      simpa [Gathered.push, Except.map] using ended

/-- What writes a text is scanned as that text. -/
theorem scanText_written {value : String} {pieces : List (List Char)}
    (characters : List.Forall₂ CharWritten value.toList pieces) (position : Position)
    (rest : List Char) :
    ∃ stop, scanText position (.ok []) (pieces.flatten ++ '"' :: rest) =
      ⟨.ok (.text (.ok value)), stop, rest⟩ := by
  rcases scanText_flatten characters position [] rest with ⟨stop, scanned⟩
  refine ⟨stop, ?_⟩
  simpa using scanned

end RpcStubs.Json
