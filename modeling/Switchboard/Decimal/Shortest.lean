import Switchboard.Decimal.Binary64

/-!
# Shortest decimal text

The fewest decimal digits that read back as a given binary64 number, of those the nearest to it,
and two ways of writing them: positional throughout, or with an exponent for large and small ones.
-/

namespace Switchboard.Decimal

/-- A decimal number `digits * 10^exponent`. -/
structure Scientific where
  digits : Nat
  exponent : Int
deriving DecidableEq, Repr

/-- The decimal without trailing zero digits. -/
def Scientific.trimZeros (fuel : Nat) (s : Scientific) : Scientific :=
  match fuel with
  | 0 => s
  | fuel + 1 =>
    if s.digits != 0 && s.digits % 10 == 0 then
      Scientific.trimZeros fuel ⟨s.digits / 10, s.exponent + 1⟩
    else s

namespace Binary64

/-- Whether `digits * 10^exponent` reads back as the positive number `x`. -/
def readsBack (x : Binary64) (digits : Nat) (exponent : Int) : Bool :=
  ofDecimal? false digits exponent == some { x with negative := false }

/-- The number of decimal digits before the point of `num / den`, possibly negative: the least `k`
with `num / den < 10^k`, found by counting up from an estimate below it. -/
def decimalPoint (num den : Nat) : Int :=
  let guess : Int := ((Nat.log2 num : Int) - (Nat.log2 den : Int) - 1) * 30103 / 100000
  let below (k : Int) : Bool :=
    if 0 ≤ k then num < den * Nat.pow 10 k.toNat else num * Nat.pow 10 (-k).toNat < den
  if below guess then guess
  else if below (guess + 1) then guess + 1
  else if below (guess + 2) then guess + 2
  else guess + 3

/-- The neighbour of `x` on the grid of `count` digits that reads back, the nearer one if both do,
the even one if they are equally near. -/
def onGrid? (x : Binary64) (num den : Nat) (point : Int) (count : Nat) : Option Scientific :=
  let exponent := point - count
  let (n, d) := if 0 ≤ exponent then (num, den * Nat.pow 10 exponent.toNat)
    else (num * Nat.pow 10 (-exponent).toNat, den)
  let low := n / d
  let nearest := divideToEven n d
  let other := if nearest == low then low + 1 else low
  if nearest != 0 && readsBack x nearest exponent then some ⟨nearest, exponent⟩
  else if other != 0 && readsBack x other exponent then some ⟨other, exponent⟩
  else none

/-- Tries ever finer grids, from `count` digits on. -/
def firstGrid (x : Binary64) (num den : Nat) (point : Int) : Nat → Nat → Scientific
  | 0, count => ⟨num, count⟩
  | fuel + 1, count =>
    match onGrid? x num den point count with
    | some s => s
    | none => firstGrid x num den point fuel (count + 1)

/-- The shortest decimal that reads back as the magnitude of `x`. -/
def shortest (x : Binary64) : Scientific :=
  if x.isZero then ⟨0, 0⟩
  else
    let (num, den) := x.ratio
    (firstGrid x num den (decimalPoint num den) 17 1).trimZeros 20

/-- Digits in positional notation, a point only where there are places after it. -/
def positional (s : Scientific) : String :=
  let digits := Nat.repr s.digits
  if 0 ≤ s.exponent then digits ++ String.ofList (List.replicate s.exponent.toNat '0')
  else
    let places := (-s.exponent).toNat
    let size := digits.length
    if places < size then
      String.ofList (digits.toList.take (size - places)) ++ "." ++
        String.ofList (digits.toList.drop (size - places))
    else "0." ++ String.ofList (List.replicate (places - size) '0') ++ digits

/-- The text with `.0` behind it unless it has a point already. -/
def withPoint (text : String) : String :=
  if text.toList.contains '.' then text else text ++ ".0"

/-- The sign in front of a magnitude's text. -/
def signed (x : Binary64) (text : String) : String := if x.negative then "-" ++ text else text

/-- Positional notation whatever the size, always with a point. -/
def plainText (x : Binary64) : String := x.signed (withPoint (positional x.shortest))

/-- Digits, a point after the first, and a signed exponent. -/
def exponentText (s : Scientific) : String :=
  let digits := Nat.repr s.digits
  let exponent := s.exponent + digits.length - 1
  let mantissa := match digits.toList with
    | first :: second :: rest => String.ofList (first :: '.' :: second :: rest)
    | other => String.ofList other
  mantissa ++ "e" ++ (if 0 ≤ exponent then "+" else "-") ++ Nat.repr exponent.natAbs

/-- Positional notation between `10^-5` and `10^16`, and notation with an exponent outside. -/
def compactText (x : Binary64) : String :=
  let s := x.shortest
  let point := (Nat.repr s.digits).length + s.exponent
  x.signed <|
    if x.isZero then "0.0"
    else if -5 < point && point ≤ 16 then withPoint (positional s)
    else exponentText s

end Binary64

end Switchboard.Decimal
