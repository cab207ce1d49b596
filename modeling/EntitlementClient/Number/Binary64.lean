/-!
# `EntitlementClient.Number.Binary64`: 64-bit floating point numbers by their bits

A `Binary64` is the 64 bits of an IEEE 754 double. Its magnitude is
`significand * 2 ^ exponent` in exact arithmetic, and every operation here works on that
pair, so that rounding is a matter of natural numbers only.

* `ofQuotient` rounds the quotient of two natural numbers to the nearest double, a tie to
  the one whose last bit is zero; the result is absent when it is beyond the largest
  double.
* `mulMagnitude` and `divMagnitude` are the exact product and quotient, rounded once.
* `powerOfTen` is the double nearest to a power of ten.
-/

set_option autoImplicit false

namespace EntitlementClient

/-- The bits of a double: sign, eleven exponent bits, fifty-two fraction bits. -/
structure Binary64 where
  /-- The bits, sign first. -/
  bits : UInt64
deriving DecidableEq, Repr, Inhabited

namespace Binary64

/-! ### The parts of a double -/

/-- Whether the sign bit is set. -/
def isNegative (x : Binary64) : Bool := Nat.pow 2 63 ≤ x.bits.toNat

/-- The eleven exponent bits. -/
def exponentBits (x : Binary64) : Nat := x.bits.toNat / Nat.pow 2 52 % Nat.pow 2 11

/-- The fifty-two fraction bits. -/
def fractionBits (x : Binary64) : Nat := x.bits.toNat % Nat.pow 2 52

/-- The integer `m` of the magnitude `m * 2 ^ e`. A number with zero exponent bits has no
hidden leading one. -/
def significand (x : Binary64) : Nat :=
  if x.exponentBits = 0 then x.fractionBits else Nat.pow 2 52 + x.fractionBits

/-- The exponent `e` of the magnitude `m * 2 ^ e`. -/
def exponent (x : Binary64) : Int := (max x.exponentBits 1 : Nat) - 1075

/-- Whether the magnitude is zero. -/
def isZero (x : Binary64) : Bool := x.significand == 0

/-- Zero without a sign. -/
def zero : Binary64 := ⟨0⟩

/-- The same magnitude, negative. -/
def negate (x : Binary64) : Binary64 := ⟨UInt64.ofNat (x.bits.toNat % Nat.pow 2 63 + Nat.pow 2 63)⟩

/-! ### Rounding -/

/-- The natural number nearest to `num / den`, a tie to the even one. -/
def roundDiv (num den : Nat) : Nat :=
  let q := num / den
  let r := num % den
  if 2 * r < den then q else if den < 2 * r then q + 1 else q + q % 2

/-- `num / den * 2 ^ -e`, as a pair of natural numbers. -/
def scale (num den : Nat) (e : Int) : Nat × Nat :=
  if 0 ≤ e then (num, den * Nat.pow 2 e.toNat) else (num * Nat.pow 2 (-e).toNat, den)

/-- The exponent of the last bit that a double near `num / den` keeps: the one that leaves
fifty-three bits, but not less than that of the smallest double. -/
def unitExponent (num den : Nat) : Int :=
  let low : Int := (Nat.log2 num : Int) - Nat.log2 den - 53
  let scaled := scale num den low
  let fitted := if Nat.pow 2 53 * scaled.2 ≤ scaled.1 then low + 1 else low
  max fitted (-1074)

/-- The double nearest to `num / den`, a tie to the even significand. Absent when the
quotient rounds beyond the largest double. -/
def ofQuotient (num den : Nat) : Option Binary64 :=
  if num = 0 then some zero
  else
    let e := unitExponent num den
    let scaled := scale num den e
    let m := roundDiv scaled.1 scaled.2
    let bits := if m < Nat.pow 2 52 then m
      else (e + 1075).toNat * Nat.pow 2 52 + (m - Nat.pow 2 52)
    if bits < 2047 * Nat.pow 2 52 then some ⟨UInt64.ofNat bits⟩ else none

/-- The double nearest to a natural number. -/
def ofNat? (n : Nat) : Option Binary64 := ofQuotient n 1

/-- The double nearest to `10 ^ n`. -/
def powerOfTen (n : Nat) : Option Binary64 := ofNat? (Nat.pow 10 n)

/-- `m * 2 ^ e`, rounded once. -/
def ofScaled (m : Nat) (den : Nat) (e : Int) : Option Binary64 :=
  let scaled := scale m den (-e)
  ofQuotient scaled.1 scaled.2

/-- The product of the magnitudes, rounded once. -/
def mulMagnitude (x y : Binary64) : Option Binary64 :=
  ofScaled (x.significand * y.significand) 1 (x.exponent + y.exponent)

/-- The quotient of the magnitudes, rounded once. A zero divisor gives no result. -/
def divMagnitude (x y : Binary64) : Option Binary64 :=
  if y.significand = 0 then none
  else ofScaled x.significand y.significand (x.exponent - y.exponent)

/-- The magnitude as a quotient of natural numbers. -/
def toQuotient (x : Binary64) : Nat × Nat := scale x.significand 1 (-x.exponent)

end Binary64

end EntitlementClient
