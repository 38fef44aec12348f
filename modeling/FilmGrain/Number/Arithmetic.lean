/-
**Arithmetic of binary floating-point numbers.**

Each of the operations `+`, `-`, `*`, `/` and the square root is the exact result rounded once to
the nearest number of the format.  The power, the exponential and the logarithm are evaluated in
double precision and rounded once from there, and a written constant is read in double precision
and then rounded; both are what makes a table computed in single precision reproducible.

Undefined operands give an undefined result, and so do the operations that have no limit: opposite
infinities added, zero times infinity, zero by zero, infinity by infinity, and the square root of a
negative number.

Main definitions:

* `Binary.add`, `Binary.mul`, `Binary.div`, `Binary.sqrt` — the rounded operations;
* `Binary.larger`, `Binary.smaller` — maximum and minimum, where zero counts as positive only with
  its positive sign;
* `Binary.toFloat`, `Binary.ofFloat`, `Binary.inDouble` — evaluation in double precision;
* the instance of `FilmGrain.Arith` for every format.

Main results:

* `Binary.neg_neg` — negation is an involution;
* `Binary.add_nan`, `Binary.mul_nan` — the undefined number is passed on.
-/

import FilmGrain.Arith
import FilmGrain.Number.Binary

set_option autoImplicit false

namespace FilmGrain

namespace Number

namespace Binary

variable {f : Format}

/-! ### Sign -/

/-- The number of opposite sign. -/
def neg : Binary f → Binary f
  | nan => nan
  | infinite negative => infinite (!negative)
  | finite negative p => finite (!negative) p

instance : Neg (Binary f) := ⟨neg⟩

theorem neg_neg (x : Binary f) : x.neg.neg = x := by
  cases x <;> simp [neg]

/-- The number without its sign. -/
def abs : Binary f → Binary f
  | nan => nan
  | infinite _ => infinite false
  | finite _ p => finite false p

/-! ### The rounded operations -/

/-- The sum.  Two terms that cancel give the positive zero, two negative zeros the negative one. -/
def add : Binary f → Binary f → Binary f
  | nan, _ | _, nan => nan
  | infinite a, infinite b => if a = b then infinite a else nan
  | infinite a, finite _ _ => infinite a
  | finite _ _, infinite b => infinite b
  | finite a p, finite b q =>
      let x := if a then -f.magnitude p else f.magnitude p
      let y := if b then -f.magnitude q else f.magnitude q
      if x + y = 0 then zero (a && b) else ofRat (x + y)

/-- The difference. -/
def sub (x y : Binary f) : Binary f := x.add y.neg

/-- The product. -/
def mul : Binary f → Binary f → Binary f
  | nan, _ | _, nan => nan
  | infinite a, infinite b => infinite (a != b)
  | infinite a, finite b q => if q.val = 0 then nan else infinite (a != b)
  | finite a p, infinite b => if p.val = 0 then nan else infinite (a != b)
  | finite a p, finite b q => round (a != b) (f.magnitude p * f.magnitude q)

/-- The quotient; a nonzero number divided by zero is infinite. -/
def div : Binary f → Binary f → Binary f
  | nan, _ | _, nan => nan
  | infinite _, infinite _ => nan
  | infinite a, finite b _ => infinite (a != b)
  | finite a _, infinite b => zero (a != b)
  | finite a p, finite b q =>
      if q.val = 0 then (if p.val = 0 then nan else infinite (a != b))
      else round (a != b) (f.magnitude p / f.magnitude q)

/-- A number with the same nearest number in the format as the square root of `x > 0`.  With two
more bits than the significand has, a root that is not exact lies strictly between two neighbours
on a grid that holds every midpoint, so their mean rounds as the root does. -/
def rootOnGrid (f : Format) (x : Rat) : Rat :=
  let shift : Int := f.fractionBits + 2 - binaryOrder x / 2
  -- twice the shift, so that the root is scaled by the shift itself
  let scaled := x * (2 : Rat) ^ (2 * shift)
  let root := scaled.floor.toNat.sqrt
  let exact := ((root * root : Nat) : Rat) = scaled
  (if exact then (root : Rat) else root + 1 / 2) / (2 : Rat) ^ shift

/-- The square root; that of a negative zero is itself. -/
def sqrt : Binary f → Binary f
  | nan => nan
  | infinite negative => if negative then nan else infinite false
  | finite negative p =>
      if p.val = 0 then finite negative p
      else if negative then nan
      else round false (rootOnGrid f (f.magnitude p))

@[simp] theorem nan_add (x : Binary f) : add nan x = nan := by cases x <;> rfl
@[simp] theorem add_nan (x : Binary f) : add x nan = nan := by cases x <;> rfl
@[simp] theorem nan_mul (x : Binary f) : mul nan x = nan := by cases x <;> rfl
@[simp] theorem mul_nan (x : Binary f) : mul x nan = nan := by cases x <;> rfl

/-! ### Maximum and minimum -/

/-- The larger of two numbers; undefined if one of them is.  Of the two zeros the positive one. -/
def larger (x y : Binary f) : Binary f :=
  if x.isNaN || y.isNaN then nan
  else if x.lt y then y
  else if y.lt x then x
  else if x.isNegative then y else x

/-- The smaller of two numbers; undefined if one of them is.  Of the two zeros the negative one. -/
def smaller (x y : Binary f) : Binary f :=
  if x.isNaN || y.isNaN then nan
  else if x.lt y then x
  else if y.lt x then y
  else if x.isNegative then x else y

/-! ### Elementary functions -/

/-- A number as a machine number of double precision. -/
def toFloat (x : Binary f) : Float :=
  Float.ofBits (UInt64.ofNat (bits (convert x : Double)))

/-- A machine number of double precision, rounded into the format. -/
def ofFloat (x : Float) : Binary f :=
  convert (ofBits x.toBits.toNat : Double)

/-- A function evaluated in double precision and rounded once. -/
def inDouble (g : Float → Float) (x : Binary f) : Binary f := ofFloat (g x.toFloat)

/-- A power, evaluated in double precision and rounded once. -/
def pow (x y : Binary f) : Binary f := ofFloat (Float.pow x.toFloat y.toFloat)

/-- A written constant: read in double precision, then rounded. -/
def const (x : Rat) : Binary f := convert (ofRat x : Double)

/-- **Every binary format is an arithmetic.** -/
instance : Arith (Binary f) where
  add := add
  sub := sub
  mul := mul
  div := div
  max := larger
  min := smaller
  const := const
  sqrt := sqrt
  pow := pow
  exp := inDouble Float.exp
  log := inDouble Float.log
  le := le
  lt := lt

end Binary

end Number

end FilmGrain
