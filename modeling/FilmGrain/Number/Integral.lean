/-
**Integers and binary numbers.**

The conversions between the two, the integer part of a number, and the rounding to an integer that
scaling values are stored with: a half goes away from zero.  The rounding is built from operations
that are exact on every number: the integer part, the difference from it, and one step by at most
one.

Main definitions:

* `Binary.ofInt?` — the nearest number, if the integer is not beyond the finite ones;
* `Binary.trunc`, `Binary.sign` — the integer part and the sign, as numbers;
* `Binary.roundHalfAway` — the nearest integer, a half going away from zero;
* `Binary.toInt?` — the integer part, as an integer;
* the instance of `FilmGrain.StoringArith` for every format.
-/

import FilmGrain.Number.Arithmetic

set_option autoImplicit false

namespace FilmGrain

namespace Number

namespace Binary

variable {f : Format}

/-- The number nearest to an integer, if that number is finite. -/
def ofInt? (n : Int) : Option (Binary f) :=
  let x : Binary f := ofRat n
  if x.isFinite then some x else none

/-- The integer part, with the sign of the number. -/
def trunc : Binary f → Binary f
  | nan => nan
  | infinite negative => infinite negative
  | finite negative p => round negative (f.magnitude p).floor

/-- One with the sign of the number, the positive zero for both zeros. -/
def sign : Binary f → Binary f
  | nan => nan
  | infinite negative => round negative 1
  | finite negative p => if p.val = 0 then zero false else round negative 1

/-- **The nearest integer; a half goes away from zero.** -/
def roundHalfAway (x : Binary f) : Binary f :=
  let whole := x.trunc
  -- the difference from the integer part is exact, so a half is recognised as one
  let step : Binary f := if le (const (1 / 2)) (x.sub whole).abs then round false 1 else zero false
  whole.add (x.sign.mul step)

/-- **The numbers of every binary format can be stored.** -/
instance : StoringArith (Binary f) where
  isFinite := isFinite
  roundHalfAway := roundHalfAway

/-- The integer part of a finite number. -/
def toInt? : Binary f → Option Int
  | nan | infinite _ => none
  | finite negative p =>
      let whole := (f.magnitude p).floor
      some (if negative then -whole else whole)

end Binary

end Number

end FilmGrain
