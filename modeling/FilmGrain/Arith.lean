/-
**The arithmetic a formula is written in.**

The tone curves, the sensor model and the noise of an encoded value are formulas over a handful of
operations.  They are written once, over any type that offers these operations; what a formula
computes then depends on the type it is read in.  Running the program reads them in a binary
floating-point format (`FilmGrain.Number.Binary`); an exact or an abstractly rounded reading is
another instance.

Main definitions:

* `FilmGrain.Arith` — the operations, written constants and comparisons of an arithmetic;
* `FilmGrain.StoringArith` — an arithmetic whose values can be rounded to integers, to be stored;
* `FilmGrain.Arith.clamp` — the larger of zero and a value.
-/

set_option autoImplicit false

namespace FilmGrain

/-- The operations that the formulas of this library are written in. -/
class Arith (α : Type) extends Add α, Sub α, Mul α, Div α, Max α, Min α where
  /-- The value of a constant that is written down as a rational number. -/
  const : Rat → α
  /-- The square root. -/
  sqrt : α → α
  /-- A base raised to an exponent. -/
  pow : α → α → α
  /-- The exponential function. -/
  exp : α → α
  /-- The natural logarithm. -/
  log : α → α
  /-- Whether the first value is at most the second. -/
  le : α → α → Bool
  /-- Whether the first value is below the second. -/
  lt : α → α → Bool

/-- An arithmetic with what values are stored by. -/
class StoringArith (α : Type) extends Arith α where
  /-- Whether a value is neither undefined nor infinite. -/
  isFinite : α → Bool
  /-- The nearest integer; a half goes away from zero. -/
  roundHalfAway : α → α

namespace Arith

/-- The value itself, or zero if it is negative. -/
def clamp {α : Type} [Arith α] (v : α) : α := max v (const 0)

end Arith

end FilmGrain
