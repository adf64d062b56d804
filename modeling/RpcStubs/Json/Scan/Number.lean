import RpcStubs.Json.Number
import RpcStubs.Json.Token

/-!
# Scanning numbers

A number is an optional minus sign, digits without a superfluous zero in front, and possibly a
fraction and an exponent. The scan takes the longest such text.
-/

namespace RpcStubs.Json

/-- Whether a character is an ASCII digit. -/
def isDigit (c : Char) : Bool :=
  '0' ≤ c && c ≤ '9'

/-- The place that an unexpected character is reported at: one byte into it, or the end. -/
def peekAt (position : Position) : List Char → Position
  | [] => position
  | c :: _ => position.afterByte c

/-- The scan of a number that lacks a digit. A reader tells the end of the text from a wrong
character, which is all that makes a difference. -/
def digitMissing (position : Position) (cs : List Char) : Scan :=
  ⟨.error
    (⟨if cs.isEmpty then .endInValue else .badNumber, peekAt position cs⟩,
      ⟨.badNumber, peekAt position cs⟩),
    position, []⟩

/-- The scan of a number that is complete. -/
def numberDone (position : Position) (parts : Number.Parts) (rest : List Char) : Scan :=
  ⟨.ok (.number (Number.value parts position)), position, rest⟩

/-- Whether an exponent is negative, and what follows its sign. -/
def exponentSign : List Char → Bool × List Char
  | '+' :: rest => (false, rest)
  | '-' :: rest => (true, rest)
  | cs => (false, cs)

/-- Scan the sign and the digits of an exponent. -/
def scanPower (position : Position) (parts : Number.Parts) (cs : List Char) : Scan :=
  let signed := exponentSign cs
  let position := position.right (cs.length - signed.2.length)
  let digits := signed.2.takeWhile isDigit
  if digits.isEmpty then digitMissing position signed.2
  else
    numberDone (position.right digits.length) { parts with exponent := some (signed.1, digits) }
      (signed.2.dropWhile isDigit)

/-- Scan an exponent, if there is one, and finish the number. -/
def scanExponent (position : Position) (parts : Number.Parts) (cs : List Char) : Scan :=
  match cs with
  | 'e' :: rest | 'E' :: rest => scanPower (position.right 1) parts rest
  | cs => numberDone position parts cs

/-- Scan a fraction, if there is one, and what follows it. -/
def scanFraction (position : Position) (parts : Number.Parts) (cs : List Char) : Scan :=
  match cs with
  | '.' :: rest =>
      let fraction := rest.takeWhile isDigit
      if fraction.isEmpty then digitMissing (position.right 1) rest
      else
        scanExponent (position.right (1 + fraction.length)) { parts with fraction := some fraction }
          (rest.dropWhile isDigit)
  | cs => scanExponent position parts cs

/-- Scan a number behind its sign. No digit follows a zero at its front. -/
def scanNumber (position : Position) (negative : Bool) (cs : List Char) : Scan :=
  let whole := cs.takeWhile isDigit
  match whole with
  | [] => digitMissing position cs
  | '0' :: _ :: _ => .stuck .badNumber (position.right 2)
  | whole =>
      scanFraction (position.right whole.length) ⟨negative, whole, none, none⟩
        (cs.dropWhile isDigit)

theorem length_exponentSign (cs : List Char) : (exponentSign cs).2.length ≤ cs.length := by
  unfold exponentSign
  split <;> simp

theorem length_rest_scanPower (position : Position) (parts : Number.Parts) (cs : List Char) :
    (scanPower position parts cs).rest.length ≤ cs.length := by
  unfold scanPower
  simp only
  split
  · exact Nat.zero_le _
  · exact Nat.le_trans (List.dropWhile_suffix _).length_le (length_exponentSign cs)

theorem length_rest_scanExponent (position : Position) (parts : Number.Parts) (cs : List Char) :
    (scanExponent position parts cs).rest.length ≤ cs.length := by
  unfold scanExponent
  split
  · exact Nat.le_succ_of_le (length_rest_scanPower ..)
  · exact Nat.le_succ_of_le (length_rest_scanPower ..)
  · exact Nat.le_refl _

theorem length_rest_scanFraction (position : Position) (parts : Number.Parts) (cs : List Char) :
    (scanFraction position parts cs).rest.length ≤ cs.length := by
  unfold scanFraction
  split
  · simp only
    split
    · exact Nat.zero_le _
    · exact Nat.le_succ_of_le
        (Nat.le_trans (length_rest_scanExponent ..) (List.dropWhile_suffix _).length_le)
  · exact length_rest_scanExponent ..

theorem length_rest_scanNumber (position : Position) (negative : Bool) (cs : List Char) :
    (scanNumber position negative cs).rest.length ≤ cs.length := by
  unfold scanNumber
  simp only
  split
  · exact Nat.zero_le _
  · exact Nat.zero_le _
  · exact Nat.le_trans (length_rest_scanFraction ..) (List.dropWhile_suffix _).length_le

/-- A number that begins with a digit uses it up. -/
theorem length_rest_scanNumber_lt (position : Position) (negative : Bool) {c : Char}
    (digit : isDigit c = true) (rest : List Char) :
    (scanNumber position negative (c :: rest)).rest.length ≤ rest.length := by
  unfold scanNumber
  simp only [List.takeWhile_cons, List.dropWhile_cons, digit, if_true]
  split
  · exact Nat.zero_le _
  · exact Nat.zero_le _
  · exact Nat.le_trans (length_rest_scanFraction ..) (List.dropWhile_suffix _).length_le

end RpcStubs.Json
