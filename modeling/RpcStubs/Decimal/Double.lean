/-!
# Double-precision numbers

A finite double is a natural number below `2^53` times a power of two, kept here in exact arithmetic
and without a sign. Products and quotients are rounded to the nearest double, a tie to the even one.
-/

namespace RpcStubs.Decimal

/-- The double `mantissa * 2^exponent`, with the mantissa below `2^53` and the exponent at least
`-1074`; above that exponent the mantissa is at least `2^52`. -/
structure Double where
  mantissa : Nat
  exponent : Int
deriving Repr, DecidableEq, Inhabited

namespace Double

/-- The exponent of the smallest doubles. -/
def leastExponent : Int :=
  -1074

/-- The largest exponent of a finite double. -/
def greatestExponent : Int :=
  971

/-- A quotient rounded to the nearest natural number, a tie to the even one. -/
def roundDiv (numerator denominator : Nat) : Nat :=
  let quotient := numerator / denominator
  let twice := 2 * (numerator % denominator)
  if twice < denominator ∨ twice = denominator ∧ quotient % 2 = 0 then quotient
  else quotient + 1

/-- The factor by which a power of two multiplies. -/
def up (exponent : Int) : Nat :=
  Nat.pow 2 exponent.toNat

/-- The factor by which a power of two divides. -/
def down (exponent : Int) : Nat :=
  Nat.pow 2 (-exponent).toNat

/-- The exponent of the greatest power of two that is at most a quotient of positive numbers. -/
def floorLog2 (numerator denominator : Nat) : Int :=
  let guess : Int := (numerator.log2 : Int) - denominator.log2
  if denominator * up guess ≤ numerator * down guess then guess else guess - 1

/-- The double nearest to a quotient, as if the exponents had no upper end. -/
def ofRatio (numerator denominator : Nat) : Double :=
  if numerator = 0 then ⟨0, leastExponent⟩
  else
    let exponent := max (floorLog2 numerator denominator - 52) leastExponent
    let mantissa := roundDiv (numerator * down exponent) (denominator * up exponent)
    if mantissa = Nat.pow 2 53 then ⟨Nat.pow 2 52, exponent + 1⟩ else ⟨mantissa, exponent⟩

/-- Whether the exponent is that of a finite double. -/
def isFinite (x : Double) : Bool :=
  x.exponent ≤ greatestExponent

/-- The numerator of a double. -/
def numerator (x : Double) : Nat :=
  x.mantissa * up x.exponent

/-- The denominator of a double. -/
def denominator (x : Double) : Nat :=
  down x.exponent

/-- The double nearest to a natural number. -/
def ofNat (n : Nat) : Double :=
  ofRatio n 1

/-- The double nearest to a product. -/
def mul (x y : Double) : Double :=
  ofRatio (x.numerator * y.numerator) (x.denominator * y.denominator)

/-- The double nearest to a quotient. -/
def div (x y : Double) : Double :=
  ofRatio (x.numerator * y.denominator) (x.denominator * y.numerator)

end Double

end RpcStubs.Decimal
