/-!
Finite binary64 numbers as integers times powers of two, with rounded products and quotients, and
the number that a decimal is taken for. Everything is computed in exact integers: a value is a
fraction, the exponent of its leading bit fixes the grid, and the fraction is rounded to that grid,
a tie to the even neighbour. A decimal is taken through rounded steps, its digits first and then
its power of ten, so the number may be a neighbour of the one nearest to the decimal.
-/
namespace ProfileClient

/-- The number `± mantissa * 2 ^ exponent`. Of the equal forms `round?` gives the one with 53
significant bits, or with the least exponent where the number is too small for them. -/
structure Binary64 where
  negative : Bool
  mantissa : Nat
  exponent : Int
deriving DecidableEq, Repr

namespace Binary64

def leastExponent : Int := -1074
def greatestExponent : Int := 971

def zero (negative : Bool) : Binary64 := ⟨negative, 0, leastExponent⟩

/-- The fraction `num / (den * 2 ^ k)`, as numerator and denominator. -/
def rescale (num den : Nat) (k : Int) : Nat × Nat :=
  if 0 ≤ k then (num, den * Nat.pow 2 k.toNat) else (num * Nat.pow 2 (-k).toNat, den)

/-- The integer nearest to `num / den`, a tie going to the even one. -/
def roundEven (num den : Nat) : Nat :=
  let floor := num / den
  let rest := 2 * (num % den)
  if rest < den then floor
  else if den < rest then floor + 1
  else floor + floor % 2

def leadingBit (num den : Nat) : Int :=
  let guess : Int := num.log2 - den.log2
  let scaled := rescale num den guess
  if scaled.2 ≤ scaled.1 then guess else guess - 1

/-- The number nearest to `num / den`; `none` beyond the greatest finite one. -/
def round? (negative : Bool) (num den : Nat) : Option Binary64 :=
  if num = 0 then some (zero negative)
  else
    let exponent := max (leadingBit num den - 52) leastExponent
    let scaled := rescale num den exponent
    let mantissa := roundEven scaled.1 scaled.2
    let number : Binary64 :=
      if mantissa = Nat.pow 2 53 then ⟨negative, Nat.pow 2 52, exponent + 1⟩
      else ⟨negative, mantissa, exponent⟩
    if number.exponent ≤ greatestExponent then some number else none

def mul? (x y : Binary64) : Option Binary64 :=
  let value := rescale (x.mantissa * y.mantissa) 1 (-(x.exponent + y.exponent))
  round? (x.negative != y.negative) value.1 value.2

/-- The quotient of two numbers, rounded; nothing is divided by zero. -/
def div? (x y : Binary64) : Option Binary64 :=
  if y.mantissa = 0 then none
  else
    let value := rescale x.mantissa y.mantissa (y.exponent - x.exponent)
    round? (x.negative != y.negative) value.1 value.2

/-- The greatest power of ten that has a number near it. -/
def greatestPower : Nat := 308

def powerOfTen? (power : Nat) : Option Binary64 := round? false (Nat.pow 10 power) 1

/-- The number multiplied by a rounded power of ten. Beyond the greatest power only zero stays in
range. -/
def mulPower? (x : Binary64) (power : Nat) : Option Binary64 :=
  if power ≤ greatestPower then (powerOfTen? power).bind x.mul?
  else if x.mantissa = 0 then some x else none

/-- The number divided by a rounded power of ten. Beyond the greatest power it is divided twice;
where that is not enough, less than the least number is left. -/
def divPower? (x : Binary64) (power : Nat) : Option Binary64 :=
  if power ≤ greatestPower then (powerOfTen? power).bind x.div?
  else
    ((powerOfTen? greatestPower).bind x.div?).bind fun part =>
      (powerOfTen? (min (power - greatestPower) greatestPower)).bind part.div?

/-- The number that `significand * 10 ^ scale` is taken for: the significand is rounded, then the
product or quotient with a power of ten. `none` beyond the greatest finite number. -/
def ofDecimal? (negative : Bool) (significand : Nat) (scale : Int) : Option Binary64 :=
  (round? negative significand 1).bind fun x =>
    if 0 ≤ scale then x.mulPower? scale.toNat else x.divPower? (-scale).toNat

end Binary64
end ProfileClient
