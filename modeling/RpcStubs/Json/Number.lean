import RpcStubs.Decimal.Shortest
import RpcStubs.Json.Fault

/-!
# Values of numbers

A number without fraction and exponent is an integer while it fits 64 bits. Every other number is
a double, computed from as many leading digits as fit 64 bits and a power of ten; only its text is
ever needed.
-/

namespace RpcStubs.Json

open Decimal (Double)

namespace Number

/-- The least number that takes more than 64 bits. -/
def wordLimit : Nat :=
  Nat.pow 2 64

/-- The most positive 32-bit number; a larger exponent is not read to its end. -/
def exponentLimit : Nat :=
  Nat.pow 2 31 - 1

/-- The value of a digit. -/
def digitValue (c : Char) : Nat :=
  c.toNat - '0'.toNat

/-- A number followed by more digits, as long as it stays below a bound, and the digits left over.
-/
def extend (bound : Nat) (n : Nat) : List Char → Nat × List Char
  | [] => (n, [])
  | c :: rest =>
      if n * 10 + digitValue c < bound then extend bound (n * 10 + digitValue c) rest
      else (n, c :: rest)

/-- The largest power of ten that is a double. -/
def greatestPower : Nat :=
  308

/-- A double times a power of ten, the power itself being rounded first; none if the product is too
large. Small results are reached in steps of the largest power, until nothing is left. -/
def scale (x : Double) (power : Int) : Option Double :=
  if power.natAbs ≤ greatestPower then
    let factor := Double.ofNat (Nat.pow 10 power.natAbs)
    let scaled := if 0 ≤ power then x.mul factor else x.div factor
    if scaled.isFinite then some scaled else none
  else if x.mantissa = 0 then some x
  else if 0 ≤ power then none
  else scale (x.div (Double.ofNat (Nat.pow 10 greatestPower))) (power + greatestPower)
termination_by power.natAbs
decreasing_by
  simp only [greatestPower] at *
  omega

/-! ## Text -/

/-- The point and the exponent of a number's text: from `0.00001` up to sixteen digits before the
point numbers are written out, with at least one decimal; all others get an exponent with a sign. -/
def layout (digits : List Char) (exponent : Int) : List Char :=
  let point := digits.length + exponent
  if 0 ≤ exponent ∧ point ≤ 16 then
    digits ++ List.replicate exponent.toNat '0' ++ ['.', '0']
  else if 0 < point ∧ point ≤ 16 then
    digits.take point.toNat ++ '.' :: digits.drop point.toNat
  else if -5 < point ∧ point ≤ 0 then
    '0' :: '.' :: List.replicate (-point).toNat '0' ++ digits
  else
    digits.take 1 ++ (if digits.length ≤ 1 then [] else '.' :: digits.drop 1)
      ++ 'e' :: (if 0 < point then '+' else '-') :: Nat.toDigits 10 (point - 1).natAbs

/-- The text of a double and its sign. -/
def text (negative : Bool) (x : Double) : String :=
  let shortest := x.shortest
  let digits :=
    if x.mantissa = 0 then ['0', '.', '0']
    else layout (Nat.toDigits 10 shortest.digits) shortest.exponent
  String.ofList (if negative then '-' :: digits else digits)

/-! ## Reading -/

/-- The parts of a number as it is written. -/
structure Parts where
  negative : Bool
  /-- The digits before the point. -/
  whole : List Char
  /-- The digits after the point, if there is one. -/
  fraction : Option (List Char)
  /-- The sign and the digits of the exponent, if there is one. -/
  exponent : Option (Bool × List Char)
deriving Repr, DecidableEq, Inhabited

/-- The double of a significand and a power of ten. -/
def doubleOf (negative : Bool) (significand : Nat) (power : Int) (stop : Position) :
    Except Fault Found :=
  match scale (Double.ofNat significand) power with
  | some x => .ok (.floating (text negative x))
  | none => .error ⟨.numberTooLarge, stop⟩

/-- The value of an integer: one that does not fit, and minus zero, become doubles. -/
def integerOf (negative : Bool) (n : Nat) : Found :=
  if !negative then .integer n
  else if 1 ≤ n ∧ n ≤ Nat.pow 2 63 then .integer (-n)
  else .floating (text true (Double.ofNat n))

/-- The value of a number that ends at a position. An exponent that does not fit 32 bits is given up
at the digit with which it stops fitting: the number is too large, or else zero. -/
def value (parts : Parts) (stop : Position) : Except Fault Found :=
  let (wholePart, skipped) := extend wordLimit 0 parts.whole
  let (significand, unread) := extend wordLimit wholePart (parts.fraction.getD [])
  let power : Int := skipped.length - ((parts.fraction.getD []).length - unread.length : Nat)
  match parts.exponent with
  | none =>
      if parts.fraction.isNone && skipped.isEmpty then .ok (integerOf parts.negative wholePart)
      else doubleOf parts.negative significand power stop
  | some (exponentNegative, digits) =>
      match extend (exponentLimit + 1) 0 digits with
      | (exponent, []) =>
          doubleOf parts.negative significand
            (if exponentNegative then power - exponent else power + exponent) stop
      | (_, _ :: beyond) =>
          if significand ≠ 0 && !exponentNegative then
            .error ⟨.numberTooLarge, { stop with column := stop.column - beyond.length }⟩
          else .ok (.floating (text parts.negative (Double.ofNat 0)))

end Number

end RpcStubs.Json
