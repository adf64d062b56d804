import Mathlib

/-!
# Texts as bytes

UTF-8 keeps the order of texts: comparing bytes is comparing characters (`bytes_lt_bytes_iff`). The
bytes of a character are a number in base 64 behind a lead that tells how many digits there are, and
more digits come with a greater lead. So of two characters the lesser has the lesser byte at the
first place where they differ, and neither ends before that place.
-/

namespace RpcStubs.Text

/-- The bytes of a text in UTF-8. -/
def bytes (text : String) : List UInt8 :=
  text.toUTF8.data.toList

theorem bytes_eq_flatMap (text : String) :
    bytes text = text.toList.flatMap String.utf8EncodeChar := by
  rw [bytes, String.toUTF8_eq_toByteArray, ← String.utf8Encode_toList, List.utf8Encode,
    List.toList_data_toByteArray]

/-! ## Numbers in base 64 -/

/-- A number with some digits of six bits behind its first byte, which carries a lead. -/
def sextets (lead : Nat) : Nat → Nat → List UInt8
  | 0, n => [UInt8.ofNat (lead + n)]
  | count + 1, n => sextets lead count (n / 64) ++ [UInt8.ofNat (0x80 + n % 64)]

theorem exists_sextets_eq_cons (lead count n : Nat) :
    ∃ digits, sextets lead count n = UInt8.ofNat (lead + n / 64 ^ count) :: digits := by
  induction count generalizing n with
  | zero => exact ⟨[], by simp [sextets]⟩
  | succ count ih =>
      rcases ih (n / 64) with ⟨digits, found⟩
      refine ⟨digits ++ [UInt8.ofNat (0x80 + n % 64)], ?_⟩
      rw [sextets, found, Nat.div_div_eq_div_mul, ← Nat.pow_succ', List.cons_append]

variable {lead other count more n m : Nat} {after later : List UInt8}

/-- The lesser first byte decides. -/
theorem sextets_append_lt_of_opening (less : lead + n / 64 ^ count < other + m / 64 ^ more)
    (fits : other + m / 64 ^ more < 256) :
    sextets lead count n ++ after < sextets other more m ++ later := by
  rcases exists_sextets_eq_cons lead count n with ⟨digits, opening⟩
  rcases exists_sextets_eq_cons other more m with ⟨otherDigits, otherOpening⟩
  rw [opening, otherOpening]
  have lesser := (UInt8.ofNat_lt_iff_lt (Nat.lt_trans less fits) fits).mpr less
  exact List.cons_lt_cons_iff.mpr (.inl lesser)

/-- Behind one lead and with as many digits, the lesser number has the lesser bytes. -/
theorem sextets_append_lt (less : n < m) (fits : lead + m / 64 ^ count < 256) :
    sextets lead count n ++ after < sextets lead count m ++ later := by
  induction count generalizing n m after later with
  | zero =>
      apply sextets_append_lt_of_opening _ fits
      simpa using less
  | succ count ih =>
      rw [sextets, sextets, List.append_assoc, List.append_assoc]
      by_cases front : n / 64 < m / 64
      · apply ih front
        rwa [Nat.div_div_eq_div_mul, ← Nat.pow_succ']
      · have same : n / 64 = m / 64 := by omega
        rw [same]
        have digit : 0x80 + n % 64 < 0x80 + m % 64 := by omega
        have fits : 0x80 + m % 64 < 256 := by omega
        have lesser := (UInt8.ofNat_lt_iff_lt (Nat.lt_trans digit fits) fits).mpr digit
        apply List.append_left_lt
        exact List.cons_lt_cons_iff.mpr (.inl lesser)

/-! ## Characters -/

/-- How many digits the first byte of a code point leaves over. -/
def digitCount (code : Nat) : Nat :=
  if code ≤ 0x7f then 0 else if code ≤ 0x7ff then 1 else if code ≤ 0xffff then 2 else 3

/-- What the first byte of a code point says about the number of its digits. -/
def leadOf (code : Nat) : Nat :=
  if code ≤ 0x7f then 0 else if code ≤ 0x7ff then 0xc0 else if code ≤ 0xffff then 0xe0 else 0xf0

theorem utf8EncodeChar_eq (c : Char) :
    String.utf8EncodeChar c = sextets (leadOf c.toNat) (digitCount c.toNat) c.toNat := by
  have bound : c.toNat < 0x110000 := Nat.lt_succ_of_le c.toNat_le_max
  have code : c.val.toNat = c.toNat := rfl
  rw [String.utf8EncodeChar, leadOf, digitCount, code]
  generalize c.toNat = n at bound
  -- The digits behind the lead fill a byte of their own, so nothing of the number is cut off.
  split
  next => simp [sextets]
  next =>
    split
    next two =>
      have whole : n / 64 % 32 = n / 64 := by omega
      simp [sextets, whole, Nat.add_comm]
    next =>
      split
      next three =>
        have whole : n / 4096 % 16 = n / 4096 := by omega
        simp [sextets, whole, Nat.div_div_eq_div_mul, Nat.add_comm]
      next four =>
        have whole : n / 262144 % 8 = n / 262144 := by omega
        simp [sextets, whole, Nat.div_div_eq_div_mul, Nat.add_comm]

/-- Of two code points the greater has as many digits behind the same lead, or a greater first
byte. -/
theorem lead_eq_or_opening_lt (less : n < m) (bound : m < 0x110000) :
    (leadOf n = leadOf m ∧ digitCount n = digitCount m)
      ∨ leadOf n + n / 64 ^ digitCount n < leadOf m + m / 64 ^ digitCount m := by
  unfold leadOf digitCount
  repeat' split
  all_goals omega

theorem opening_lt (bound : m < 0x110000) : leadOf m + m / 64 ^ digitCount m < 256 := by
  unfold leadOf digitCount
  repeat' split
  all_goals omega

/-- Of two characters the lesser has the lesser bytes, whatever follows them. -/
theorem utf8EncodeChar_append_lt {c d : Char} (less : c < d) :
    String.utf8EncodeChar c ++ after < String.utf8EncodeChar d ++ later := by
  have codes : c.toNat < d.toNat := less
  have bound : d.toNat < 0x110000 := Nat.lt_succ_of_le d.toNat_le_max
  have fits := opening_lt bound
  rw [utf8EncodeChar_eq, utf8EncodeChar_eq]
  rcases lead_eq_or_opening_lt codes bound with ⟨lead, count⟩ | opening
  · rw [lead, count]
    exact sextets_append_lt codes fits
  · exact sextets_append_lt_of_opening opening fits

/-! ## Texts -/

theorem flatMap_utf8EncodeChar_lt {first second : List Char} (less : first < second) :
    first.flatMap String.utf8EncodeChar < second.flatMap String.utf8EncodeChar := by
  induction less with
  | nil =>
      rcases List.exists_cons_of_ne_nil String.utf8EncodeChar_ne_nil with ⟨byte, rest, opening⟩
      rw [List.flatMap_cons, opening]
      exact List.nil_lt_cons _ _
  | rel less => exact utf8EncodeChar_append_lt less
  | cons _ ih => exact List.append_left_lt ih

/-- Comparing the bytes of texts is comparing their characters. -/
theorem bytes_lt_bytes_iff {first second : String} :
    bytes first < bytes second ↔ first < second := by
  have ordered {first second : String} (less : first < second) : bytes first < bytes second := by
    rw [bytes_eq_flatMap, bytes_eq_flatMap]
    exact flatMap_utf8EncodeChar_lt (String.lt_iff.mp less)
  constructor
  · intro lessBytes
    by_cases same : first = second
    · rw [same] at lessBytes
      exact absurd lessBytes (List.lt_irrefl _)
    · refine Std.not_le.mp fun atMost => ?_
      have back := ordered (Std.lt_of_le_of_ne atMost (Ne.symm same))
      exact List.lt_asymm lessBytes back
  · exact ordered

end RpcStubs.Text
