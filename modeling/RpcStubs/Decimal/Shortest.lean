import RpcStubs.Decimal.Double

/-!
# Shortest decimals

Of all decimals that read back as a double, those with the fewest digits are wanted, and of these
the one nearest to the double. The decimals that read back lie between the midpoints to the two
neighbours; the midpoints belong to them when the mantissa is even. The grids of one digit, two
digits and so on are tried in turn.
-/

namespace RpcStubs.Decimal

/-- The decimal `digits * 10^exponent`. -/
structure Numeral where
  digits : Nat
  exponent : Int
deriving Repr, DecidableEq, Inhabited

namespace Numeral

/-- The factor by which a power of ten multiplies. -/
def up (exponent : Int) : Nat :=
  Nat.pow 10 exponent.toNat

/-- The factor by which a power of ten divides. -/
def down (exponent : Int) : Nat :=
  Nat.pow 10 (-exponent).toNat

/-- A decimal without zeros at the end of its digits, of which there are at most `limit`. -/
def dropZeros (limit : Nat) (x : Numeral) : Numeral :=
  match limit with
  | 0 => x
  | limit + 1 =>
      if x.digits ≠ 0 ∧ x.digits % 10 = 0 then dropZeros limit ⟨x.digits / 10, x.exponent + 1⟩
      else x

end Numeral

namespace Double

/-- The exponent of the greatest power of ten that is at most a quotient of positive numbers,
searched upward from a guess at most `tries` below it. -/
def floorLog10 (numerator denominator : Nat) (guess : Int) : Nat → Int
  | 0 => guess
  | tries + 1 =>
      if denominator * Numeral.up (guess + 1) ≤ numerator * Numeral.down (guess + 1) then
        floorLog10 numerator denominator (guess + 1) tries
      else guess

/-- The exponent of the first digit of a positive double. -/
def firstPlace (x : Double) : Int :=
  let bits : Int := (x.mantissa.log2 : Int) + x.exponent
  floorLog10 x.numerator x.denominator (bits * 30103 / 100000 - 1) 3

/-- Four times the mantissa, so that midpoints to neighbours are whole in this unit. -/
def centre (x : Double) : Nat :=
  4 * x.mantissa

/-- The midpoint to the next smaller double, in the unit of `centre`. Below a power of two the
neighbour is half as far. -/
def lower (x : Double) : Nat :=
  if x.mantissa = Nat.pow 2 52 ∧ leastExponent < x.exponent then x.centre - 1
  else x.centre - 2

/-- The midpoint to the next greater double, in the unit of `centre`. -/
def upper (x : Double) : Nat :=
  x.centre + 2

/-- Whether a decimal reads back as a positive double. -/
def readsBack (x : Double) (d : Numeral) : Bool :=
  let unit := x.exponent - 2
  let value := d.digits * Numeral.up d.exponent * down unit
  let scale := Numeral.down d.exponent * up unit
  if x.mantissa % 2 = 0 then x.lower * scale ≤ value ∧ value ≤ x.upper * scale
  else x.lower * scale < value ∧ value < x.upper * scale

/-- The decimal of a number of digits that reads back as a positive double and is nearest to it, a
tie going to the even one; none if no such decimal reads back. -/
def nearestWith? (x : Double) (places : Nat) : Option Numeral :=
  let exponent := x.firstPlace - (places - 1 : Nat)
  let numerator := x.numerator * Numeral.down exponent
  let denominator := x.denominator * Numeral.up exponent
  let below : Numeral := ⟨numerator / denominator, exponent⟩
  let above : Numeral := ⟨below.digits + 1, exponent⟩
  let nearest : Numeral := ⟨roundDiv numerator denominator, exponent⟩
  if x.readsBack below && x.readsBack above then some nearest
  else if x.readsBack below then some below
  else if x.readsBack above then some above
  else none

/-- The shortest decimal that reads back as a double. Seventeen digits always do. -/
def shortest (x : Double) : Numeral :=
  if x.mantissa = 0 then ⟨0, 0⟩
  else
    match (List.range' 1 17).findSome? x.nearestWith? with
    | some d => d.dropZeros 17
    | none => ⟨x.numerator / x.denominator, 0⟩

end Double

end RpcStubs.Decimal
