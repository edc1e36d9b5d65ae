/-!
# Numbers in 64-bit binary floating point

A number is its word of sign, exponent and significand, so that equality is equality of words and
all that is said of one is arithmetic of natural numbers. `ofDecimal` rounds a decimal fraction to
the nearest number, a tie to the even significand; `magnitude` gives a finite number as `m · 2 ^ q`.
-/

namespace SchemaGen.Number

/-- A binary floating-point number of 64 bits, as its word. -/
structure Binary64 where
  bits : UInt64
deriving DecidableEq, Repr, Inhabited

namespace Binary64

/-- Whether the sign bit is set. -/
def isNegative (x : Binary64) : Bool := x.bits.toNat ≥ Nat.pow 2 63

/-- The biased exponent. -/
def exponentField (x : Binary64) : Nat := x.bits.toNat / Nat.pow 2 52 % Nat.pow 2 11

/-- The stored part of the significand. -/
def significandField (x : Binary64) : Nat := x.bits.toNat % Nat.pow 2 52

/-- Whether the word stands for no number at all. -/
def isNaN (x : Binary64) : Bool := x.exponentField == 2047 && x.significandField != 0

/-- Whether the number is infinite. -/
def isInfinite (x : Binary64) : Bool := x.exponentField == 2047 && x.significandField == 0

/-- Whether the number is a zero of either sign. -/
def isZero (x : Binary64) : Bool := x.exponentField == 0 && x.significandField == 0

/-- The pair `(m, q)` for which the size of a finite number is `m · 2 ^ q`. -/
def magnitude (x : Binary64) : Nat × Int :=
  if x.exponentField = 0 then (x.significandField, -1074)
  else (Nat.pow 2 52 + x.significandField, (x.exponentField : Int) - 1075)

/-- The number with the given sign, biased exponent and stored significand. -/
def ofFields (negative : Bool) (exponent significand : Nat) : Binary64 :=
  ⟨UInt64.ofNat ((if negative then Nat.pow 2 63 else 0) + exponent * Nat.pow 2 52 + significand)⟩

def nan : Binary64 := ofFields false 2047 (Nat.pow 2 51)

def infinity (negative : Bool) : Binary64 := ofFields negative 2047 0

/-- The quotient rounded to the nearest whole number, a tie to the even one. -/
def roundDiv (num den : Nat) : Nat :=
  let q := num / den
  let twice := 2 * (num % den)
  if twice < den then q
  else if den < twice then q + 1
  else q + q % 2

/-- The number nearest to `num / den`, for `num` and `den` above zero. The exponent is chosen so
that the significand has 53 bits, or fewer at the lower end of the range; a significand that rounds
up to 54 bits moves to the next exponent by the sum of the two fields. -/
def ofRatio (negative : Bool) (num den : Nat) : Binary64 :=
  -- `e` is the exponent of the leading bit, or one more than it
  let e : Int := (Nat.log2 num : Int) - (Nat.log2 den : Int)
  let isBelow : Bool := if e ≥ 0 then num < den * Nat.pow 2 e.toNat
    else num * Nat.pow 2 (-e).toNat < den
  let lead : Int := if isBelow then e - 1 else e
  let q : Int := max (lead - 52) (-1074)
  let m := if q ≥ 0 then roundDiv num (den * Nat.pow 2 q.toNat)
    else roundDiv (num * Nat.pow 2 (-q).toNat) den
  -- `m` is below `2 ^ 52` for subnormal numbers only
  let field : Int := if m < Nat.pow 2 52 then 0 else q + 1075
  let word : Nat := if field = 0 then m else field.toNat * Nat.pow 2 52 + (m - Nat.pow 2 52)
  if word ≥ 2047 * Nat.pow 2 52 then infinity negative
  else ⟨UInt64.ofNat ((if negative then Nat.pow 2 63 else 0) + word)⟩

/-- The number nearest to `digits · 10 ^ exponent`. A decimal exponent far outside the range gives
zero or infinity without computing the power. -/
def ofDecimal (negative : Bool) (digits : Nat) (exponent : Int) : Binary64 :=
  if digits = 0 then ofFields negative 0 0
  else
    let places : Int := (Nat.log2 digits : Int) * 30103 / 100000 + exponent
    if places > 400 then infinity negative
    else if places < -400 then ofFields negative 0 0
    else if exponent ≥ 0 then ofRatio negative (digits * Nat.pow 10 exponent.toNat) 1
    else ofRatio negative digits (Nat.pow 10 (-exponent).toNat)

end Binary64

end SchemaGen.Number
