/-! IEEE 754 doubles by their bits: the double nearest to a fraction, and whole
numbers cut to the precision of a double. All of it is exact arithmetic on
natural numbers. -/

namespace LogicFree.Number

def infinityBits : Nat := 0x7ff <<< 52

/-- A quotient rounded to the nearest whole number, a half to the even one. -/
def roundQuotient (numerator denominator : Nat) : Nat :=
  let quotient := numerator / denominator
  let remainder := numerator % denominator
  if 2 * remainder > denominator || (2 * remainder = denominator && quotient % 2 = 1) then
    quotient + 1
  else quotient

/-- The quotient of a fraction by a power of two, as a fraction. -/
def scaleFraction (numerator denominator : Nat) (exponent : Int) : Nat × Nat :=
  if exponent < 0 then (numerator <<< exponent.natAbs, denominator)
  else (numerator, denominator <<< exponent.natAbs)

/-- The exponent of the last place of the double nearest to a fraction. Below
the least exponent of doubles all numbers share one last place. -/
def lastPlace (numerator denominator : Nat) : Int :=
  let guess : Int := (numerator.log2 : Int) - (denominator.log2 : Int) - 52
  let scaled := scaleFraction numerator denominator guess
  let exponent := if scaled.1 < scaled.2 <<< 52 then guess - 1 else guess
  max exponent (-1074)

/-- The bits of the double nearest to a fraction, ties to even. The carry of the
rounding runs into the exponent field, which is the next double. -/
def nearestBits (numerator denominator : Nat) : UInt64 :=
  if numerator = 0 then 0
  else
    let exponent := lastPlace numerator denominator
    let scaled := scaleFraction numerator denominator exponent
    let significand := roundQuotient scaled.1 scaled.2
    let bits :=
      if significand < 1 <<< 52 then significand
      else ((exponent + 1074).toNat <<< 52) + significand
    (min bits infinityBits).toUInt64

/-- A whole number cut to the fifty-three bits of a double, ties to even. -/
def cutWhole (value : Nat) : Nat :=
  let excess := value.log2 - 52
  roundQuotient value (1 <<< excess) <<< excess

/-- The value of a digit sequence in a base, cut to a double after every digit.
This is where a long sequence differs from its nearest double. -/
def wholeBits (base : Nat) (digits : List Nat) : UInt64 :=
  nearestBits (digits.foldl (fun total digit => cutWhole (total * base + digit)) 0) 1

/-- The bits of `mantissa * 10 ^ exponent`. Exponents far outside the range of
doubles are settled without the power. -/
def decimalBits (mantissa : Nat) (exponent : Int) : UInt64 :=
  let magnitude : Int := (Nat.toDigits 10 mantissa).length + exponent
  if mantissa = 0 || magnitude < -400 then 0
  else if magnitude > 400 then infinityBits.toUInt64
  else if exponent < 0 then nearestBits mantissa (Nat.pow 10 exponent.natAbs)
  else nearestBits (mantissa * Nat.pow 10 exponent.natAbs) 1

end LogicFree.Number
