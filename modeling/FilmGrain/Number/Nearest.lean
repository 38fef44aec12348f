/-
**Nearest integers and orders of magnitude of rational numbers.**

Every rounding of this library, to a binary format and to a number of decimal digits, is a scaling
by a power of two or ten followed by the rounding to an integer defined here.  The scale is found
from the order of magnitude, the exponent of the largest power of the base that is not above the
number.

Main definitions:

* `FilmGrain.Number.nearest` — the nearest integer, a tie going to the even one;
* `FilmGrain.Number.binaryOrder`, `FilmGrain.Number.decimalOrder` — the orders of magnitude.

Main results:

* `FilmGrain.Number.nearest_intCast` — an integer is its own nearest integer.
-/

set_option autoImplicit false

namespace FilmGrain

namespace Number

/-! ### The nearest integer -/

/-- The integer nearest to `x`; halfway between two integers, the even one. -/
def nearest (x : Rat) : Int :=
  let low := x.floor
  let rest := x - low
  if rest < 1 / 2 then low
  else if 1 / 2 < rest then low + 1
  else low + low % 2

/-- **Integers are kept by rounding.** -/
@[simp] theorem nearest_intCast (n : Int) : nearest n = n := by
  have h : ((n : Rat) - n) < 1 / 2 := by
    rw [Rat.sub_self]; decide +kernel
  simp only [nearest, Rat.floor_intCast, h, if_true]

/-! ### Orders of magnitude -/

/-- The exponent of the largest power of two that is at most `x`, for a positive `x`.  The
logarithms of numerator and denominator determine it up to one. -/
def binaryOrder (x : Rat) : Int :=
  let order : Int := (x.num.natAbs.log2 : Int) - (x.den.log2 : Int)
  if x < (2 : Rat) ^ order then order - 1 else order

/-- The number of decimal digits of a natural number; none for zero. -/
def digitCount (n : Nat) : Nat := if n = 0 then 0 else (Nat.toDigits 10 n).length

/-- The exponent of the largest power of ten that is at most `x`, for a positive `x`. -/
def decimalOrder (x : Rat) : Int :=
  if 1 ≤ x then (digitCount x.floor.toNat : Int) - 1
  else -(digitCount ((1 / x).ceil.toNat - 1) : Int)

end Number

end FilmGrain
