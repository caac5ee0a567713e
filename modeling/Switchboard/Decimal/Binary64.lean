/-!
# Finite binary64 numbers

A finite binary64 number is a sign, a whole mantissa and a power of two. Arithmetic is exact on
naturals with one rounding, to nearest and ties to even, done by `Binary64.ofRatio?`.
-/

namespace Switchboard.Decimal

/-- The finite number `(-1)^negative * mantissa * 2^exponent`. In canonical form the mantissa is
below `2^53`, the exponent is at least `-1074`, and the mantissa reaches `2^52` unless the exponent
is the least. -/
structure Binary64 where
  negative : Bool
  mantissa : Nat
  exponent : Int
deriving DecidableEq, Repr

namespace Binary64

/-- Zero with a sign. -/
def zero (negative : Bool) : Binary64 := ⟨negative, 0, -1074⟩

def isZero (x : Binary64) : Bool := x.mantissa == 0

/-- The magnitude as a quotient of naturals. -/
def ratio (x : Binary64) : Nat × Nat :=
  if 0 ≤ x.exponent then (x.mantissa * Nat.pow 2 x.exponent.toNat, 1)
  else (x.mantissa, Nat.pow 2 (-x.exponent).toNat)

/-- The quotient `num / den` rounded to the nearest whole number, a half to the even one. -/
def divideToEven (num den : Nat) : Nat :=
  let quotient := num / den
  let remainder := num % den
  if 2 * remainder < den then quotient
  else if den < 2 * remainder then quotient + 1
  else if quotient % 2 == 0 then quotient else quotient + 1

/-- The quotient `num / den / 2^exponent`, numerator and denominator apart. -/
def scale (num den : Nat) (exponent : Int) : Nat × Nat :=
  if 0 ≤ exponent then (num, den * Nat.pow 2 exponent.toNat)
  else (num * Nat.pow 2 (-exponent).toNat, den)

/-- The least mantissa that has 53 bits. -/
def leastFull : Nat := 0x10000000000000

/-- The binary exponent at which `num / den` has 53 bits before the point, but at least the least
exponent of the format. -/
def exponentFor (num den : Nat) : Int :=
  let guess : Int := (Nat.log2 num : Int) - (Nat.log2 den : Int) - 52
  let (n, d) := scale num den guess
  max (-1074) (if n < d * leastFull then guess - 1 else guess)

/-- The number nearest to `num / den`; `none` if it lies beyond the largest finite one. -/
def ofRatio? (negative : Bool) (num den : Nat) : Option Binary64 :=
  if num == 0 then some (zero negative)
  else
    let exponent := exponentFor num den
    let (n, d) := scale num den exponent
    let rounded := divideToEven n d
    let (mantissa, exponent) :=
      if rounded == 2 * leastFull then (leastFull, exponent + 1) else (rounded, exponent)
    if 971 < exponent then none else some ⟨negative, mantissa, exponent⟩

/-- The number nearest to a natural. -/
def ofNat? (n : Nat) : Option Binary64 := ofRatio? false n 1

/-- The rounded product. -/
def mul? (x y : Binary64) : Option Binary64 :=
  let (a, b) := x.ratio
  let (c, d) := y.ratio
  ofRatio? (x.negative != y.negative) (a * c) (b * d)

/-- The rounded quotient by a number that is not zero. -/
def div? (x y : Binary64) : Option Binary64 :=
  let (a, b) := x.ratio
  let (c, d) := y.ratio
  ofRatio? (x.negative != y.negative) (a * d) (b * c)

/-- The number nearest to `digits * 10^exponent`, rounded once. -/
def ofDecimal? (negative : Bool) (digits : Nat) (exponent : Int) : Option Binary64 :=
  if 0 ≤ exponent then ofRatio? negative (digits * Nat.pow 10 exponent.toNat) 1
  else ofRatio? negative digits (Nat.pow 10 (-exponent).toNat)

end Binary64

end Switchboard.Decimal
