/-
**The exact reading of the formulas.**

The tone curves, the sensor model and the noise of an encoded value are formulas over any
arithmetic.  Read in the real numbers they are free of rounding: every operation is the exact one, a
written constant is the rational number it stands for, and every value is defined.  A division by
zero, a root of a negative number and a logarithm of one are junk values of the library here, so a
statement about the exact reading has to say where these do not occur.

Main definitions:

* the instances of `FilmGrain.Arith` and `FilmGrain.StoringArith` for the real numbers.

Main results:

* `FilmGrain.Exact.const_eq`, `FilmGrain.Exact.clamp_eq` and their likes — the operations in
  ordinary notation;
* `FilmGrain.Exact.roundHalfAway_mono` — rounding to an integer keeps the order.
-/

import Mathlib.Analysis.SpecialFunctions.Pow.Real
import Mathlib.Analysis.SpecialFunctions.Sqrt
import FilmGrain.Arith

set_option autoImplicit false

namespace FilmGrain

open Arith

/-- **The real numbers are an arithmetic**, the exact one. -/
noncomputable instance : StoringArith ℝ where
  const x := x
  sqrt := Real.sqrt
  pow x y := x ^ y
  exp := Real.exp
  log := Real.log
  le x y := decide (x ≤ y)
  lt x y := decide (x < y)
  isFinite _ := true
  roundHalfAway x := if x < 0 then -round (-x) else round x

namespace Exact

variable {x y : ℝ}

/-! ### The operations -/

theorem const_eq (q : Rat) : (const q : ℝ) = q := rfl

theorem clamp_eq (x : ℝ) : clamp x = max x 0 := by
  rw [clamp, const_eq, Rat.cast_zero]

theorem clamp_of_nonneg (h : 0 ≤ x) : clamp x = x := by
  rw [clamp_eq, max_eq_left h]

theorem sqrt_eq (x : ℝ) : sqrt x = √x := rfl

theorem pow_eq (x y : ℝ) : pow x y = x ^ y := rfl

theorem exp_eq (x : ℝ) : exp x = Real.exp x := rfl

theorem log_eq (x : ℝ) : log x = Real.log x := rfl

theorem le_iff : le x y ↔ x ≤ y := decide_eq_true_iff

theorem lt_iff : lt x y ↔ x < y := decide_eq_true_iff

/-! ### Rounding to an integer -/

theorem roundHalfAway_of_nonneg (h : 0 ≤ x) :
    StoringArith.roundHalfAway x = (⌊x + 1 / 2⌋ : ℝ) := by
  rw [← round_eq]
  exact if_neg h.not_gt

/-- Rounding numbers that are not negative keeps their order. -/
theorem roundHalfAway_mono (hx : 0 ≤ x) (h : x ≤ y) :
    StoringArith.roundHalfAway x ≤ StoringArith.roundHalfAway y := by
  rw [roundHalfAway_of_nonneg hx, roundHalfAway_of_nonneg (hx.trans h)]
  exact_mod_cast Int.floor_le_floor (by linarith)

end Exact

end FilmGrain
