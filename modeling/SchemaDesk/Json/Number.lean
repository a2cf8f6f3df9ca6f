/-!
# Numbers of a JSON text

An integer literal keeps its value exactly. A literal with a fraction or an exponent stands for the
nearest number of the binary format with 53 significant bits, ties going to the even significand;
such a number is kept exactly, as a sign and a significand times a power of two. A literal beyond
the largest finite number, like the literals that name no finite number, becomes
`Number.nonFinite`.
-/

namespace SchemaDesk

/-- A number of a JSON text. -/
inductive Number where
  /-- An integer literal. -/
  | integer (value : Int)
  /-- The number `significand * 2 ^ exponent`, or its negative. -/
  | binary (negative : Bool) (significand : Nat) (exponent : Int)
  /-- No finite number. -/
  | nonFinite
deriving DecidableEq, Repr

namespace Number

/-- The quotient of two natural numbers rounded to the nearest, ties to the even one. -/
def roundedQuotient (dividend divisor : Nat) : Nat :=
  let quotient := dividend / divisor
  let rest := 2 * (dividend % divisor)
  if rest < divisor ∨ rest = divisor ∧ quotient % 2 = 0 then quotient else quotient + 1

/-- Two to a power as a fraction. -/
def powerOfTwo (exponent : Int) : Nat × Nat :=
  (Nat.pow 2 exponent.toNat, Nat.pow 2 (-exponent).toNat)

/-- The least power of two that is a unit of the format. -/
def leastExponent : Int := -1074

/-- The power of two just above the unit of the largest numbers of the format. -/
def exponentBound : Int := 972

/-- The significand just above those of 53 bits: two to the 53rd power. -/
def significandBound : Nat := 9007199254740992

/-- The exponent of the greatest power of two that is at most the positive fraction. -/
def binaryOrder (numerator denominator : Nat) : Int :=
  let guess : Int := (numerator.log2 : Int) - (denominator.log2 : Int)
  let power := powerOfTwo guess
  if denominator * power.1 ≤ numerator * power.2 then guess else guess - 1

/-- The number of the binary format nearest to a positive fraction. -/
def ofFraction (negative : Bool) (numerator denominator : Nat) : Number :=
  let exponent := max (binaryOrder numerator denominator - 52) leastExponent
  let power := powerOfTwo exponent
  let significand := roundedQuotient (numerator * power.2) (denominator * power.1)
  if significand = 0 then binary negative 0 0
  else if exponentBound ≤ exponent ∨
    exponent + 1 = exponentBound ∧ significandBound ≤ significand then nonFinite
  else binary negative significand exponent

/-- The number of the binary format nearest to `mantissa * 10 ^ exponent`, where the mantissa is
written with the given number of digits. Far outside the range of the format the answer is known
without the power of ten. -/
def ofDecimal (negative : Bool) (mantissa digits : Nat) (exponent : Int) : Number :=
  if mantissa = 0 ∨ (digits : Int) + exponent < -400 then binary negative 0 0
  else if (Nat.log2 mantissa : Int) / 4 + exponent > 400 then nonFinite
  else ofFraction negative (mantissa * Nat.pow 10 exponent.toNat)
    (Nat.pow 10 (-exponent).toNat)

/-- The integer that a number equals, if it equals one. -/
def integral? : Number → Option Int
  | integer value => some value
  | binary negative significand exponent =>
    let power := powerOfTwo exponent
    let size := significand * power.1 / power.2
    if significand * power.1 % power.2 = 0 then some (if negative then -size else size) else none
  | nonFinite => none

end Number

end SchemaDesk
