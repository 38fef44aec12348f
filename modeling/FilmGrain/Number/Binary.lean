/-
**Binary floating-point numbers.**

A binary format lists its finite magnitudes in increasing order, and a finite number is a sign and
the position of its magnitude in that list.  The position is the number's bit pattern without the
sign, so there is nothing to normalise: every position below `Format.count` is a magnitude, the
magnitude after the last is infinity, and the order of positions is the order of values.

Rounding follows the same list.  `Format.position` counts the binades below a magnitude and adds
the nearest multiple of the spacing there; a carry into the next binade, and past the last one into
infinity, is the ordinary carry of that sum.

Main definitions:

* `FilmGrain.Number.Format`, `Format.magnitude`, `Format.position` — a format, the magnitude at a
  position, and the position of the magnitude nearest to a number;
* `FilmGrain.Number.Binary` — the numbers of a format;
* `Binary.ofRat`, `Binary.toRat` — rounding into a format, and the exact value;
* `Binary.rank` — the integer by which the numbers of a format are ordered;
* `Binary.bits`, `Binary.ofBits` — the bit pattern.

Main results:

* `Binary.rank_eq_none` — only the undefined number has no place in the order.
-/

import FilmGrain.Number.Nearest

set_option autoImplicit false

namespace FilmGrain

namespace Number

/-! ### Formats -/

/-- A binary format: the bits of the fraction, the number of exponents of finite numbers, and the
exponent of the least positive magnitude. -/
structure Format where
  /-- The number of bits of the significand after the leading one. -/
  fractionBits : Nat
  /-- The number of exponents of finite magnitudes, the one shared by the subnormals included. -/
  exponents : Nat
  /-- The least positive magnitude is two to this power. -/
  minExponent : Int
deriving DecidableEq

namespace Format

/-- Single precision. -/
def single : Format := ⟨23, 255, -149⟩

/-- Double precision. -/
def double : Format := ⟨52, 2047, -1074⟩

variable (f : Format)

/-- The number of magnitudes in one binade. -/
def binadeSize : Nat := Nat.pow 2 f.fractionBits

/-- The number of finite magnitudes. -/
def count : Nat := f.exponents * f.binadeSize

/-- The significand of the magnitude at a position. -/
def significand (position : Nat) : Nat :=
  if position < f.binadeSize then position
  else f.binadeSize + position % f.binadeSize

/-- The exponent of the magnitude at a position; the subnormals share that of the first binade. -/
def exponent (position : Nat) : Int :=
  f.minExponent + ((position / f.binadeSize - 1 : Nat) : Int)

/-- The magnitude at a position, exactly. -/
def magnitude (position : Nat) : Rat :=
  (f.significand position : Rat) * (2 : Rat) ^ f.exponent position

/-- The number of binades whose spacing is finer than that of the binade of `x`. -/
def binadesBelow (x : Rat) : Nat :=
  (binaryOrder x - f.fractionBits - f.minExponent).toNat

/-- The position of the magnitude nearest to `x`, for `x` not negative: the even one of two equally
near.  A position from `Format.count` on stands for a number beyond the finite ones. -/
def position (x : Rat) : Nat :=
  if x = 0 then 0
  else
    -- a significand with its leading one is at least `binadeSize`, which counts the first binade
    let below := f.binadesBelow x
    below * f.binadeSize + (nearest (x / (2 : Rat) ^ (f.minExponent + below))).toNat

end Format

/-! ### Numbers -/

/-- A number of a binary format. -/
inductive Binary (f : Format) where
  /-- The undefined number. -/
  | nan
  /-- An infinity. -/
  | infinite (negative : Bool)
  /-- A finite number, by its sign and the position of its magnitude; zero has both signs. -/
  | finite (negative : Bool) (position : Fin f.count)
deriving DecidableEq

/-- The numbers of single precision. -/
abbrev Single : Type := Binary Format.single

/-- The numbers of double precision. -/
abbrev Double : Type := Binary Format.double

namespace Binary

variable {f : Format}

/-- The number with a given sign and position; past the last magnitude, an infinity. -/
def ofPosition (negative : Bool) (position : Nat) : Binary f :=
  if h : position < f.count then finite negative ⟨position, h⟩ else infinite negative

/-- The number nearest to a magnitude, with a given sign. -/
def round (negative : Bool) (magnitude : Rat) : Binary f :=
  ofPosition negative (f.position magnitude)

/-- The number nearest to `x`; zero gets the positive sign. -/
def ofRat (x : Rat) : Binary f := round (decide (x < 0)) x.abs

/-- A zero of a given sign. -/
def zero (negative : Bool) : Binary f := ofPosition negative 0

/-- The exact value of a finite number. -/
def toRat : Binary f → Option Rat
  | nan | infinite _ => none
  | finite negative p => some (if negative then -f.magnitude p else f.magnitude p)

/-- Whether a number is undefined. -/
def isNaN : Binary f → Bool
  | nan => true
  | _ => false

/-- Whether a number is neither undefined nor infinite. -/
def isFinite : Binary f → Bool
  | finite _ _ => true
  | _ => false

/-- Whether a number carries the negative sign. -/
def isNegative : Binary f → Bool
  | nan => false
  | infinite negative => negative
  | finite negative _ => negative

/-! ### Order -/

/-- The place of a number in the order of its format: the signed position of its magnitude, where
infinity follows the last finite one.  The two zeros share their place. -/
def rank : Binary f → Option Int
  | nan => none
  | infinite negative => some (if negative then -(f.count : Int) else f.count)
  | finite negative p => some (if negative then -(p.val : Int) else p.val)

/-- **Only the undefined number has no place in the order.** -/
theorem rank_eq_none (x : Binary f) : x.rank = none ↔ x = nan := by
  cases x <;> simp [rank]

/-- Whether both numbers are defined and the first is at most the second. -/
def le (x y : Binary f) : Bool :=
  match x.rank, y.rank with
  | some a, some b => decide (a ≤ b)
  | _, _ => false

/-- Whether both numbers are defined and the first is below the second. -/
def lt (x y : Binary f) : Bool :=
  match x.rank, y.rank with
  | some a, some b => decide (a < b)
  | _, _ => false

/-- Whether both numbers are defined and equal in value. -/
def same (x y : Binary f) : Bool := x.le y && y.le x

/-! ### Conversion -/

/-- A number of one format rounded into another. -/
def convert {g : Format} : Binary f → Binary g
  | nan => nan
  | infinite negative => infinite negative
  | finite negative p => round negative (f.magnitude p)

/-- The bit pattern of a number: the sign above the position.  The undefined number has the first
bit of its fraction set and no sign. -/
def bits (x : Binary f) : Nat :=
  let signBit := (f.exponents + 1) * f.binadeSize
  match x with
  | nan => f.count + f.binadeSize / 2
  | infinite negative => (if negative then signBit else 0) + f.count
  | finite negative p => (if negative then signBit else 0) + p.val

/-- The number with a given bit pattern. -/
def ofBits (b : Nat) : Binary f :=
  let signBit := (f.exponents + 1) * f.binadeSize
  let negative := decide (signBit ≤ b)
  let rest := b % signBit
  if rest ≤ f.count then ofPosition negative rest else nan

end Binary

end Number

end FilmGrain
