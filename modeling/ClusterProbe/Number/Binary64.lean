/-!
# Finite double-precision numbers

A finite number of the 64-bit binary interchange format, held by its three fields, so that every
value of the type is a number and no two values have the same fields. Decimals, products and
quotients are rounded to the nearest number, a half to the even one, in exact arithmetic on naturals.
-/

namespace ClusterProbe

/-- A finite double: sign, biased exponent and fraction. -/
structure Binary64 where
  negative : Bool
  biased : Fin 2047
  fraction : Fin (Nat.pow 2 52)
deriving DecidableEq

namespace Binary64

/-- The integer that the sign and the power of two scale. -/
def significand (x : Binary64) : Nat :=
  if x.biased.val = 0 then x.fraction.val else Nat.pow 2 52 + x.fraction.val

/-- The power of two that scales the significand. -/
def exponent (x : Binary64) : Int := max x.biased.val 1 - 1075

/-- Zero with either sign. -/
def zero (negative : Bool) : Binary64 := ⟨negative, 0, 0⟩

/-- Both zeros. -/
def isZero (x : Binary64) : Bool := x.biased.val = 0 && x.fraction.val = 0

/-- Numerical equality: the two zeros are equal, all else is equal to itself only. -/
def same (x y : Binary64) : Bool := x = y || (x.isZero && y.isZero)

/-- A natural over a power of two: `num / (den · 2 ^ e)` as a fraction. -/
def scaled (num den : Nat) (e : Int) : Nat × Nat :=
  if e < 0 then (num * Nat.pow 2 e.natAbs, den) else (num, den * Nat.pow 2 e.natAbs)

/-- The quotient rounded to the nearest natural, a half to the even one. -/
def roundDiv (num den : Nat) : Nat :=
  let q := num / den
  let r := num % den
  if 2 * r < den then q
  else if den < 2 * r then q + 1
  else if q % 2 = 0 then q else q + 1

/-- The double with significand `m` and exponent `e`; none if the exponent is out of range. A
significand of 53 ones rounded up is carried into the exponent. -/
def assemble (negative : Bool) (m : Nat) (e : Int) : Option Binary64 :=
  let (m, e) := if m = Nat.pow 2 53 then (Nat.pow 2 52, e + 1) else (m, e)
  let biased := if m < Nat.pow 2 52 then 0 else (e + 1075).toNat
  if h : biased < 2047 then
    some ⟨negative, ⟨biased, h⟩, ⟨m % Nat.pow 2 52, Nat.mod_lt _ (by decide)⟩⟩
  else none

/-- The power of two that the significand of `num / den` counts in: all 53 bits are used unless the
power is the least one. The lengths of both numbers tell it up to one. -/
def quantum (num den : Nat) : Int :=
  let guess : Int := (num.log2 : Int) - den.log2 - 52
  let scaledToGuess := scaled num den guess
  max (if scaledToGuess.1 < scaledToGuess.2 * Nat.pow 2 52 then guess - 1 else guess) (-1074)

/-- The double nearest to `num / den`; none if that is beyond the largest double. -/
def ofRatio (negative : Bool) (num den : Nat) : Option Binary64 :=
  if num = 0 then some (zero negative)
  else
    let e := quantum num den
    let significand := scaled num den e
    assemble negative (roundDiv significand.1 significand.2) e

/-- The double nearest to `digits · 10 ^ e`; none if that is beyond the largest double. Numbers
far outside the range of doubles are told by their number of digits. -/
def ofDecimal (negative : Bool) (digits : Nat) (e : Int) : Option Binary64 :=
  if digits = 0 then some (zero negative)
  else
    let places : Int := (Nat.toDigits 10 digits).length + e
    if places < -400 then some (zero negative)
    else if 400 < places then none
    else if e < 0 then ofRatio negative digits (Nat.pow 10 e.natAbs)
    else ofRatio negative (digits * Nat.pow 10 e.natAbs) 1

/-- The double nearest to a natural number. -/
def ofNat (negative : Bool) (n : Nat) : Option Binary64 := ofRatio negative n 1

/-- The double nearest to the product; none if that is beyond the largest double. -/
def mul? (x y : Binary64) : Option Binary64 :=
  let product := scaled (x.significand * y.significand) 1 (-(x.exponent + y.exponent))
  ofRatio (x.negative != y.negative) product.1 product.2

/-- The double nearest to the quotient; none if that is beyond the largest double. -/
def div? (x y : Binary64) : Option Binary64 :=
  let quotient := scaled x.significand y.significand (y.exponent - x.exponent)
  ofRatio (x.negative != y.negative) quotient.1 quotient.2

end Binary64

end ClusterProbe
