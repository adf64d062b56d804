import RpcStubs.Json.Scan.Number
import RpcStubs.Proofs.Json.Grammar

/-!
# Scanning what writes a number

The scan of a number takes as many characters as can belong to it. What writes a number is therefore
scanned as a number and to its end, as long as nothing follows that could go on with it
(`scanNumber_written`).
-/

namespace RpcStubs.Json

/-- Nothing at the front of some characters goes on with a number. -/
def EndsNumber (cs : List Char) : Prop :=
  ∀ c ∈ cs.head?, isDigit c = false ∧ c ≠ '.' ∧ c ≠ 'e' ∧ c ≠ 'E'

/-- A scan gives a number and leaves some characters. -/
def ScansNumber (scan : Scan) (rest : List Char) : Prop :=
  ∃ value stop, scan = ⟨.ok (.number value), stop, rest⟩

/-! ## Digits -/

theorem isDigit_of_digits {digits : List Char} (areDigits : Digits digits) :
    ∀ c ∈ digits, isDigit c = true := by
  intro c member
  have digit := areDigits.2 c member
  simpa [Char.isDigit, isDigit, Char.le_def] using digit

theorem takeWhile_digits {digits rest : List Char} (areDigits : Digits digits)
    (ends : ∀ c ∈ rest.head?, isDigit c = false) :
    (digits ++ rest).takeWhile isDigit = digits := by
  rw [List.takeWhile_append_of_pos (isDigit_of_digits areDigits)]
  cases rest with
  | nil => simp
  | cons c rest => simp [ends c rfl]

theorem dropWhile_digits {digits rest : List Char} (areDigits : Digits digits)
    (ends : ∀ c ∈ rest.head?, isDigit c = false) :
    (digits ++ rest).dropWhile isDigit = rest := by
  rw [List.dropWhile_append_of_pos (isDigit_of_digits areDigits)]
  cases rest with
  | nil => rfl
  | cons c rest => simp [ends c rfl]

theorem isEmpty_digits {digits : List Char} (areDigits : Digits digits) :
    digits.isEmpty = false := by
  simpa using areDigits.1

theorem EndsNumber.digit {rest : List Char} (ends : EndsNumber rest) :
    ∀ c ∈ rest.head?, isDigit c = false :=
  fun c front => (ends c front).1

/-! ## The parts of a number -/

theorem scanPower_digits {digits rest : List Char} (areDigits : Digits digits)
    (ends : EndsNumber rest) {negative : Bool} {cs : List Char}
    (signed : exponentSign cs = (negative, digits ++ rest)) (position : Position)
    (parts : Number.Parts) : ScansNumber (scanPower position parts cs) rest := by
  unfold scanPower
  simp only [signed, takeWhile_digits areDigits ends.digit,
    dropWhile_digits areDigits ends.digit, isEmpty_digits areDigits, Bool.false_eq_true, if_false]
  exact ⟨_, _, rfl⟩

/-- Digits stand behind no sign. -/
theorem exponentSign_digits {digits : List Char} (areDigits : Digits digits) (rest : List Char) :
    exponentSign (digits ++ rest) = (false, digits ++ rest) := by
  cases digits with
  | nil => exact absurd rfl areDigits.1
  | cons c later =>
      have digit := areDigits.2 c List.mem_cons_self
      have notPlus : c ≠ '+' := by
        rintro rfl
        exact absurd digit (by decide)
      have notMinus : c ≠ '-' := by
        rintro rfl
        exact absurd digit (by decide)
      simp [exponentSign, notPlus, notMinus]

theorem scanExponent_written {exponent : Option (Bool × List Char)} {cs rest : List Char}
    (written : ExponentWritten exponent cs) (ends : EndsNumber rest) (position : Position)
    (parts : Number.Parts) : ScansNumber (scanExponent position parts (cs ++ rest)) rest := by
  cases written with
  | absent =>
      unfold scanExponent
      split
      next same => exact absurd rfl (ends 'e' (congrArg List.head? same)).2.2.1
      next same => exact absurd rfl (ends 'E' (congrArg List.head? same)).2.2.2
      next => exact ⟨_, _, rfl⟩
  | unsigned isMark areDigits =>
      rcases isMark with rfl | rfl <;>
        exact scanPower_digits areDigits ends (exponentSign_digits areDigits rest) _ parts
  | positive isMark areDigits =>
      rcases isMark with rfl | rfl <;> exact scanPower_digits areDigits ends rfl _ parts
  | negative isMark areDigits =>
      rcases isMark with rfl | rfl <;> exact scanPower_digits areDigits ends rfl _ parts

/-- Neither a digit nor a point stands at the front of an exponent or of what follows a number. -/
theorem head?_exponent {exponent : Option (Bool × List Char)} {cs rest : List Char}
    (written : ExponentWritten exponent cs) (ends : EndsNumber rest) :
    ∀ c ∈ (cs ++ rest).head?, isDigit c = false ∧ c ≠ '.' := by
  cases written with
  | absent => exact fun c front => ⟨(ends c front).1, (ends c front).2.1⟩
  | unsigned isMark areDigits => rcases isMark with rfl | rfl <;> simp <;> decide
  | positive isMark areDigits => rcases isMark with rfl | rfl <;> simp <;> decide
  | negative isMark areDigits => rcases isMark with rfl | rfl <;> simp <;> decide

theorem scanFraction_written {fraction : Option (List Char)}
    {exponent : Option (Bool × List Char)} {behindPoint behindMark rest : List Char}
    (fractionWritten : FractionWritten fraction behindPoint)
    (exponentWritten : ExponentWritten exponent behindMark) (ends : EndsNumber rest)
    (position : Position) (parts : Number.Parts) :
    ScansNumber (scanFraction position parts (behindPoint ++ (behindMark ++ rest))) rest := by
  have front := head?_exponent exponentWritten ends
  cases fractionWritten with
  | absent =>
      unfold scanFraction
      split
      next same => exact absurd rfl (front '.' (congrArg List.head? same)).2
      next => exact scanExponent_written exponentWritten ends _ _
  | @present digits areDigits =>
      have noDigit : ∀ c ∈ (behindMark ++ rest).head?, isDigit c = false :=
        fun c here => (front c here).1
      simp only [List.cons_append, scanFraction, takeWhile_digits areDigits noDigit,
        dropWhile_digits areDigits noDigit, isEmpty_digits areDigits, Bool.false_eq_true, if_false]
      exact scanExponent_written exponentWritten ends _ _

theorem head?_fraction {fraction : Option (List Char)} {exponent : Option (Bool × List Char)}
    {behindPoint behindMark rest : List Char}
    (fractionWritten : FractionWritten fraction behindPoint)
    (exponentWritten : ExponentWritten exponent behindMark) (ends : EndsNumber rest) :
    ∀ c ∈ (behindPoint ++ (behindMark ++ rest)).head?, isDigit c = false := by
  cases fractionWritten with
  | absent => exact fun c front => (head?_exponent exponentWritten ends c front).1
  | present areDigits => simp; decide

/-! ## Whole numbers -/

/-- What writes a number behind its sign is scanned to its end. -/
theorem scanNumber_written {whole : List Char} {fraction : Option (List Char)}
    {exponent : Option (Bool × List Char)} {behindPoint behindMark rest : List Char}
    (areDigits : Digits whole) (noZero : whole.head? = some '0' → whole = ['0'])
    (fractionWritten : FractionWritten fraction behindPoint)
    (exponentWritten : ExponentWritten exponent behindMark) (ends : EndsNumber rest)
    (position : Position) (negative : Bool) :
    ScansNumber
      (scanNumber position negative (whole ++ (behindPoint ++ (behindMark ++ rest)))) rest := by
  have noDigit := head?_fraction fractionWritten exponentWritten ends
  unfold scanNumber
  simp only [takeWhile_digits areDigits noDigit, dropWhile_digits areDigits noDigit]
  split
  next => exact absurd rfl areDigits.1
  next => exact absurd (noZero rfl) (by simp)
  next => exact scanFraction_written fractionWritten exponentWritten ends _ _

end RpcStubs.Json
