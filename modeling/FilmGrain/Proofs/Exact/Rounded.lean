/-
**The rounded reading of the formulas.**

The formulas are read here in the real numbers with a rounding after every step.  Nothing is assumed
of the rounding but that it commutes with powers of two, which the rounding to a number of binary
digits does when there is no least and no last exponent.  As in a binary format there are two
roundings: constants are read in one of them, where powers, exponentials and logarithms are
evaluated as well, and everything is rounded into the other.

Main definitions:

* `FilmGrain.FloatingRounding` — a rounding that commutes with powers of two;
* `FloatingRounding.digits` — the rounding to a number of binary digits;
* `FilmGrain.Precision`, `FilmGrain.Rounded` — the two roundings of an arithmetic, and **the
  arithmetic**.

Main results:

* `Rounded.const_mul_zpow`, `Rounded.mul_mul_zpow`, `Rounded.div_mul_zpow` — **its operations
  commute with powers of two**.
-/

import Mathlib.Data.Int.Log
import FilmGrain.Proofs.Exact.Arithmetic

set_option autoImplicit false

namespace FilmGrain

open Arith

/-! ### Roundings -/

/-- A rounding of the real numbers that commutes with powers of two. -/
structure FloatingRounding where
  /-- The number that a number is rounded to. -/
  round : ℝ → ℝ
  /-- A power of two is not seen by the rounding. -/
  round_mul_zpow : ∀ (x : ℝ) (k : ℤ), round (x * (2 : ℝ) ^ k) = round x * (2 : ℝ) ^ k

theorem log_abs_mul_zpow {x : ℝ} (hx : x ≠ 0) (k : ℤ) :
    Int.log 2 |x * (2 : ℝ) ^ k| = Int.log 2 |x| + k := by
  have hpos : 0 < |x| := abs_pos.2 hx
  have hpow : (0 : ℝ) < (2 : ℝ) ^ k := by positivity
  have hscaled : 0 < |x| * (2 : ℝ) ^ k := by positivity
  have hlow : (2 : ℝ) ^ Int.log 2 |x| ≤ |x| := Int.zpow_log_le_self one_lt_two hpos
  have hhigh : |x| < (2 : ℝ) ^ (Int.log 2 |x| + 1) := Int.lt_zpow_succ_log_self one_lt_two _
  rw [abs_mul, abs_of_pos hpow]
  refine le_antisymm (Int.lt_add_one_iff.1 ?_) ?_
  · refine (Int.lt_zpow_iff_log_lt one_lt_two hscaled).1 ?_
    rw [add_right_comm, zpow_add₀ (by norm_num)]
    exact mul_lt_mul_of_pos_right hhigh hpow
  · refine (Int.zpow_le_iff_le_log one_lt_two hscaled).1 ?_
    rw [zpow_add₀ (by norm_num)]
    exact mul_le_mul_of_nonneg_right hlow hpow.le

/-- The multiple of a step that a number is rounded to, a half going up. -/
noncomputable def nearestMultiple (step x : ℝ) : ℝ := round (x / step) * step

theorem nearestMultiple_mul {factor : ℝ} (hfactor : factor ≠ 0) (step x : ℝ) :
    nearestMultiple (step * factor) (x * factor) = nearestMultiple step x * factor := by
  rw [nearestMultiple, nearestMultiple, mul_div_mul_right _ _ hfactor, mul_assoc]

/-- The last of a number of binary digits after the leading one moves with the number. -/
theorem nearestMultiple_mul_zpow (n : ℕ) (x : ℝ) (k : ℤ) :
    nearestMultiple (((2 : ℕ) : ℝ) ^ (Int.log 2 |x * (2 : ℝ) ^ k| - n)) (x * (2 : ℝ) ^ k) =
      nearestMultiple (((2 : ℕ) : ℝ) ^ (Int.log 2 |x| - n)) x * (2 : ℝ) ^ k := by
  rw [Nat.cast_ofNat]
  rcases eq_or_ne x 0 with rfl | hx
  · simp [nearestMultiple]
  · have hspacing : (2 : ℝ) ^ (Int.log 2 |x| + k - n) =
        (2 : ℝ) ^ (Int.log 2 |x| - n) * (2 : ℝ) ^ k := by
      rw [← zpow_add₀ two_ne_zero]
      congr 1
      ring
    rw [log_abs_mul_zpow hx, hspacing, nearestMultiple_mul (by positivity)]

/-- The rounding to a number of binary digits after the leading one. -/
noncomputable def FloatingRounding.digits (n : ℕ) : FloatingRounding where
  round x := nearestMultiple (((2 : ℕ) : ℝ) ^ (Int.log 2 |x| - n)) x
  round_mul_zpow := nearestMultiple_mul_zpow n

/-! ### The arithmetic -/

/-- The roundings of an arithmetic. -/
structure Precision where
  /-- The rounding that constants are read in and functions are evaluated in. -/
  reading : FloatingRounding
  /-- The rounding that every result is kept in. -/
  working : FloatingRounding

/-- The real numbers as the numbers of a precision. -/
def Rounded (_ : Precision) : Type := ℝ

/-- **Every operation is the exact one, followed by the rounding.**  Comparisons, maximum and
minimum and the rounding to an integer are exact. -/
noncomputable instance (p : Precision) : StoringArith (Rounded p) where
  add := fun (x y : ℝ) => p.working.round (x + y)
  sub := fun (x y : ℝ) => p.working.round (x - y)
  mul := fun (x y : ℝ) => p.working.round (x * y)
  div := fun (x y : ℝ) => p.working.round (x / y)
  max := (max : ℝ → ℝ → ℝ)
  min := (min : ℝ → ℝ → ℝ)
  const q := p.working.round (p.reading.round q)
  sqrt := fun (x : ℝ) => p.working.round √x
  pow := fun (x y : ℝ) => p.working.round (p.reading.round (x ^ y))
  exp := fun (x : ℝ) => p.working.round (p.reading.round (Real.exp x))
  log := fun (x : ℝ) => p.working.round (p.reading.round (Real.log x))
  le := fun (x y : ℝ) => decide (x ≤ y)
  lt := fun (x y : ℝ) => decide (x < y)
  isFinite _ := true
  roundHalfAway := (StoringArith.roundHalfAway : ℝ → ℝ)

namespace Rounded

variable {p : Precision}

/-- A number times a power of two, exactly. -/
noncomputable def scale (x : Rounded p) (k : ℤ) : Rounded p := (show ℝ from x) * ((2 : ℕ) : ℝ) ^ k

theorem scale_eq (x : Rounded p) (k : ℤ) : scale x k = (show ℝ from x) * (2 : ℝ) ^ k := by
  rw [scale, Nat.cast_ofNat]

theorem const_mul_zpow (q : Rat) (k : ℤ) :
    (const (q * (2 : Rat) ^ k) : Rounded p) = scale (const q) k := by
  rw [scale_eq]
  change p.working.round (p.reading.round ((q * (2 : Rat) ^ k : Rat) : ℝ)) =
    p.working.round (p.reading.round q) * (2 : ℝ) ^ k
  push_cast
  rw [p.reading.round_mul_zpow, p.working.round_mul_zpow]

theorem mul_mul_zpow (x y : Rounded p) (k : ℤ) : x * scale y k = scale (x * y) k := by
  rw [scale_eq, scale_eq]
  change p.working.round ((show ℝ from x) * ((show ℝ from y) * (2 : ℝ) ^ k)) = _
  rw [← mul_assoc, p.working.round_mul_zpow]
  rfl

theorem div_mul_zpow (x y : Rounded p) (k : ℤ) : x / scale y k = scale (x / y) (-k) := by
  rw [scale_eq, scale_eq]
  change p.working.round ((show ℝ from x) / ((show ℝ from y) * (2 : ℝ) ^ k)) = _
  rw [div_mul_eq_div_div, div_eq_mul_inv _ ((2 : ℝ) ^ k), ← zpow_neg, p.working.round_mul_zpow]
  rfl

/-- Opposite factors cancel. -/
theorem scale_mul_scale (x y : Rounded p) (k : ℤ) : scale x k * scale y (-k) = x * y := by
  rw [scale_eq, scale_eq]
  change p.working.round ((show ℝ from x) * (2 : ℝ) ^ k * ((show ℝ from y) * (2 : ℝ) ^ (-k))) = _
  rw [mul_mul_mul_comm, ← zpow_add₀ two_ne_zero, add_neg_cancel, zpow_zero, mul_one]
  rfl

end Rounded

end FilmGrain
