/-
**The shortest decimal that identifies a binary number.**

A decimal identifies a number if it is nearer to it than to any other of the format, that is, if
rounding the decimal gives the number back.  The shortest one is searched among the multiples of
ever smaller powers of ten: on each grid only the two neighbours of the number can be nearest, and
of two that identify it the closer one is taken.

Main definitions:

* `Decimal.identifies` — whether a decimal rounds to the magnitude at a position;
* `Decimal.shortestDigits` — the digits and their exponent;
* `Decimal.shortest` — the text of a number.

Main results:

* `Decimal.identifies_of_candidate` — **what the search finds on a grid identifies the number**.
-/

import FilmGrain.Decimal.Digits

set_option autoImplicit false

namespace FilmGrain

open Number

namespace Decimal

/-! ### Search -/

/-- Whether `digits * 10 ^ exponent` rounds to the magnitude at a position. -/
def identifies (f : Format) (position digits : Nat) (exponent : Int) : Bool :=
  f.position ((digits : Rat) * (10 : Rat) ^ exponent) == position

/-- The multiple of `10 ^ exponent` that identifies a magnitude, if there is one: the closer of the
two neighbours if both do, the even one if they are equally close. -/
def candidate (f : Format) (position : Nat) (exponent : Int) : Option Nat :=
  let scaled := f.magnitude position / (10 : Rat) ^ exponent
  let closer := (nearest scaled).toNat
  let lower := scaled.floor.toNat
  -- the number lies between `lower` and its successor, so `other` is the neighbour that is left
  let other := if closer = lower then lower + 1 else lower
  [closer, other].find? (identifies f position · exponent)

/-- **What the search finds on a grid identifies the number.** -/
theorem identifies_of_candidate {f : Format} {position digits : Nat} {exponent : Int}
    (h : candidate f position exponent = some digits) :
    identifies f position digits exponent = true := by
  unfold candidate at h
  exact (List.find?_eq_some_iff_append.1 h).1

/-- The first grid with a candidate, from `count` digits on, and the candidate.  The magnitudes of
double precision have one within seventeen digits. -/
def searchGrid (f : Format) (position : Nat) (order : Int) : Nat → Nat → Nat × Int
  | 0, count =>
      ((nearest (f.magnitude position / (10 : Rat) ^ (order - count))).toNat, order - count)
  | fuel + 1, count =>
      match candidate f position (order - count) with
      | some digits => (digits, order - count)
      | none => searchGrid f position order fuel (count + 1)

/-- The digits of the shortest decimal that identifies a magnitude, and their exponent. -/
def shortestDigits (f : Format) (position : Nat) : Nat × Int :=
  if position = 0 then (0, 0)
  else searchGrid f position (decimalOrder (f.magnitude position)) 17 0

/-! ### Layout -/

/-- The shortest decimal that identifies a number: positional, with at least one place, where the
first digit stands for a power of ten from the minus fourth to the fifteenth; scientific
elsewhere. -/
def shortest {f : Format} : Binary f → String
  | .nan => "nan"
  | .infinite negative => signed negative "inf"
  | .finite negative p =>
      let (number, exponent) := shortestDigits f p
      let digits := Nat.toDigits 10 number
      let order : Int := exponent + digits.length - 1
      let kept := trimmed digits
      signed negative <|
        if order < -4 ∨ 16 ≤ order then
          pointed (kept.length - 1) kept ++ exponentMark order
        else if order < 0 then
          let zeros := List.replicate (-order).toNat '0'
          pointed (kept.length + (-order).toNat - 1) (zeros ++ kept)
        else
          let width := order.toNat + 1
          let filled := kept ++ List.replicate (width + 1 - kept.length) '0'
          pointed (filled.length - width) filled

end Decimal

end FilmGrain
