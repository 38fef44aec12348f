/-
**Arithmetic with roundings that keep the order.**

The formulas are read here in the extended real numbers, with one more value for what is undefined.
Every operation is the exact one followed by a rounding, and nothing is assumed of the rounding but
that it keeps the order; in particular a result beyond the last number of a format may be rounded to
an infinity.  As in a binary format there are two roundings: constants are read in one of them, and
everything is rounded into the other.

An operation without an exact result is undefined, and so is every operation on the undefined value:
opposite infinities added, zero times infinity, infinity by infinity, the square root of a negative
number.  Zero has no sign here, so a quotient by zero is undefined as well.  The power, the
exponential and the logarithm are not used by the sensor and have no values.

Main definitions:

* `FilmGrain.OrderedPrecision`, `OrderedPrecision.Holds` — the roundings of an arithmetic, and the
  numbers that they keep;
* `FilmGrain.Extended` — the numbers of a precision, and **the arithmetic**;
* `Extended.sum`, `Extended.product`, `Extended.quotient`, `Extended.root` — the exact operations.

Main results:

* `Extended.root_mono`, `Extended.root_coe` — the square root;
* `Extended.add_of_nonneg`, `Extended.mul_of_nonneg`, `Extended.div_of_pos`, `Extended.sqrt_of` —
  the operations where they have a result.
-/

import FilmGrain.Arith
import Mathlib.Analysis.SpecialFunctions.Sqrt
import Mathlib.Data.EReal.Inv

set_option autoImplicit false

namespace FilmGrain

open Arith

/-! ### Rational numbers -/

namespace Extended

/-- A rational number as an extended real one. -/
noncomputable def real (q : Rat) : EReal := ((q : ℝ) : EReal)

variable {q r : Rat}

theorem real_le_iff : real q ≤ real r ↔ q ≤ r := EReal.coe_le_coe_iff.trans Rat.cast_le

theorem real_lt_iff : real q < real r ↔ q < r := EReal.coe_lt_coe_iff.trans Rat.cast_lt

@[simp] theorem real_zero : real 0 = 0 := by rw [real, Rat.cast_zero, EReal.coe_zero]

theorem real_injective : Function.Injective real :=
  EReal.coe_injective.comp Rat.cast_injective

theorem real_eq_zero : real q = 0 ↔ q = 0 := EReal.coe_eq_zero.trans Rat.cast_eq_zero

theorem real_pos : 0 < real q ↔ 0 < q := by rw [← real_zero, real_lt_iff]

theorem real_neg : real q < 0 ↔ q < 0 := by rw [← real_zero, real_lt_iff]

theorem real_nonneg : 0 ≤ real q ↔ 0 ≤ q := by rw [← real_zero, real_le_iff]

theorem real_add (q r : Rat) : real q + real r = real (q + r) := by
  rw [real, real, real, Rat.cast_add, EReal.coe_add]

theorem real_mul (q r : Rat) : real q * real r = real (q * r) := by
  rw [real, real, real, Rat.cast_mul, EReal.coe_mul]

theorem real_div (q r : Rat) : real q / real r = real (q / r) := by
  rw [real, real, real, Rat.cast_div, EReal.coe_div]

theorem real_ne_top (q : Rat) : real q ≠ ⊤ := EReal.coe_ne_top _

theorem real_ne_bot (q : Rat) : real q ≠ ⊥ := EReal.coe_ne_bot _

end Extended

open Extended

/-! ### Roundings -/

/-- The roundings of an arithmetic. -/
structure OrderedPrecision where
  /-- The rounding that constants are read in. -/
  reading : EReal →o EReal
  /-- The rounding that every result is kept in. -/
  working : EReal →o EReal

/-- A number that both roundings keep. -/
structure OrderedPrecision.Holds (p : OrderedPrecision) (q : Rat) : Prop where
  read : p.reading (real q) = real q
  used : p.working (real q) = real q

/-- The numbers of a precision: the extended real numbers, and the undefined one. -/
def Extended (_ : OrderedPrecision) : Type := Option EReal

namespace Extended

/-! ### Exact results -/

/-- The sum of two numbers. -/
noncomputable def sum (x y : EReal) : Option EReal :=
  if (x = ⊤ ∧ y = ⊥) ∨ (x = ⊥ ∧ y = ⊤) then none else some (x + y)

/-- The product of two numbers. -/
noncomputable def product (x y : EReal) : Option EReal :=
  if (x = 0 ∧ (y = ⊤ ∨ y = ⊥)) ∨ ((x = ⊤ ∨ x = ⊥) ∧ y = 0) then none else some (x * y)

/-- The quotient of two numbers. -/
noncomputable def quotient (x y : EReal) : Option EReal :=
  if y = 0 ∨ ((x = ⊤ ∨ x = ⊥) ∧ (y = ⊤ ∨ y = ⊥)) then none else some (x / y)

/-- The square root of a number that is not negative; zero for the others. -/
noncomputable def root (x : EReal) : EReal := if x = ⊤ then ⊤ else (√x.toReal : ℝ)

variable {x y : EReal}

/-- An infinity. -/
noncomputable def infinity (negative : Bool) : EReal := if negative then ⊥ else ⊤

theorem infinity_ne_real (a : Bool) (q : Rat) : infinity a ≠ real q := by
  cases a <;> simp [infinity, real]

theorem infinity_mul_real (a : Bool) {q : Rat} (h : q ≠ 0) :
    infinity a * real q = infinity (a != decide (q < 0)) := by
  rcases h.lt_or_gt with hlt | hgt
  · have hneg := real_neg.2 hlt
    cases a <;> simp [infinity, hlt, EReal.top_mul_of_neg hneg, EReal.bot_mul_of_neg hneg]
  · have hpos := real_pos.2 hgt
    cases a <;> simp [infinity, hgt.not_gt, EReal.top_mul_of_pos hpos, EReal.bot_mul_of_pos hpos]

theorem infinity_div_real (a : Bool) {q : Rat} (h : q ≠ 0) :
    infinity a / real q = infinity (a != decide (q < 0)) := by
  have hinv : (real q)⁻¹ = real q⁻¹ := by
    rw [real, real, Rat.cast_inv, EReal.coe_inv]
  rw [div_eq_mul_inv, hinv, infinity_mul_real a (inv_ne_zero h)]
  simp only [inv_lt_zero]

/-! ### Exact results of infinities and rational numbers -/

theorem sum_infinity_infinity (a b : Bool) :
    sum (infinity a) (infinity b) = if a = b then some (infinity a) else none := by
  cases a <;> cases b <;> simp [sum, infinity]

theorem sum_infinity_real (a : Bool) (q : Rat) :
    sum (infinity a) (real q) = some (infinity a) := by
  cases a <;> simp [sum, infinity, real]

theorem sum_comm (x y : EReal) : sum x y = sum y x := by
  rw [sum, sum, add_comm]
  congr 1
  exact propext (by tauto)

theorem sum_real_real (q r : Rat) : sum (real q) (real r) = some (real (q + r)) := by
  rw [sum, if_neg (by simp [real_ne_top, real_ne_bot]), real_add]

theorem product_infinity_infinity (a b : Bool) :
    product (infinity a) (infinity b) = some (infinity (a != b)) := by
  cases a <;> cases b <;> simp [product, infinity]

theorem product_infinity_real (a : Bool) (q : Rat) : product (infinity a) (real q) =
    if q = 0 then none else some (infinity (a != decide (q < 0))) := by
  split
  · rename_i h
    cases a <;> simp [product, infinity, h]
  · rename_i h
    rw [product, if_neg (by simp [real_ne_top, real_ne_bot, real_eq_zero, h]),
      infinity_mul_real a h]

theorem product_comm (x y : EReal) : product x y = product y x := by
  rw [product, product, EReal.mul_comm]
  congr 1
  exact propext (by tauto)

theorem product_real_real (q r : Rat) : product (real q) (real r) = some (real (q * r)) := by
  rw [product, if_neg (by simp [real_ne_top, real_ne_bot]), real_mul]

theorem quotient_infinity_real (a : Bool) {q : Rat} (h : q ≠ 0) :
    quotient (infinity a) (real q) = some (infinity (a != decide (q < 0))) := by
  rw [quotient, if_neg (by simp [real_ne_top, real_ne_bot, real_eq_zero, h]), infinity_div_real a h]

theorem quotient_real_real (q : Rat) {r : Rat} (h : r ≠ 0) :
    quotient (real q) (real r) = some (real (q / r)) := by
  rw [quotient, if_neg (by simp [real_ne_top, real_ne_bot, real_eq_zero, h]), real_div]

/-! ### The root -/

@[simp] theorem root_top : root ⊤ = ⊤ := if_pos rfl

theorem root_coe (x : ℝ) : root x = (√x : ℝ) := by
  rw [root, if_neg (EReal.coe_ne_top x), EReal.toReal_coe]

theorem root_mono : Monotone root := by
  intro x y h
  by_cases hy : y = ⊤
  · rw [hy, root_top]
    exact le_top
  have hx : x ≠ ⊤ := ne_top_of_le_ne_top hy h
  rw [root, root, if_neg hx, if_neg hy, EReal.coe_le_coe_iff]
  by_cases hbot : x = ⊥
  · rw [hbot, EReal.toReal_bot, Real.sqrt_zero]
    exact Real.sqrt_nonneg _
  · exact Real.sqrt_le_sqrt (EReal.toReal_le_toReal h hbot hy)

/-! ### The arithmetic -/

variable {p : OrderedPrecision}

/-- A number as one of a precision. -/
def of (x : EReal) : Extended p := some x

/-- The undefined number. -/
def undefined : Extended p := none

/-- A number of one precision rounded into another. -/
noncomputable def convert {p' : OrderedPrecision} (r : EReal →o EReal) (x : Extended p) :
    Extended p' :=
  Option.map r x

/-- An operation on two numbers, rounded. -/
noncomputable def rounded (p : OrderedPrecision) (op : EReal → EReal → Option EReal) :
    Extended p → Extended p → Extended p
  | some x, some y => (op x y).map p.working
  | _, _ => undefined

/-- An operation on two numbers that is kept as it is. -/
def kept (op : EReal → EReal → EReal) : Extended p → Extended p → Extended p
  | some x, some y => of (op x y)
  | _, _ => undefined

/-- A comparison; nothing compares to the undefined number. -/
noncomputable def compared (relation : EReal → EReal → Prop) [DecidableRel relation] :
    Extended p → Extended p → Bool
  | some x, some y => decide (relation x y)
  | _, _ => false

/-- **Every operation is the exact one, followed by the rounding.**  Comparisons, maximum and
minimum are exact. -/
noncomputable instance : Arith (Extended p) where
  add := rounded p sum
  sub := rounded p fun x y => sum x (-y)
  mul := rounded p product
  div := rounded p quotient
  max := kept max
  min := kept min
  const q := of (p.working (p.reading (real q)))
  sqrt
    | some x => if x < 0 then undefined else of (p.working (root x))
    | none => undefined
  pow _ _ := undefined
  exp _ := undefined
  log _ := undefined
  le := compared (· ≤ ·)
  lt := compared (· < ·)

theorem const_eq (q : Rat) :
    (const q : Extended p) = of (p.working (p.reading (real q))) := rfl

theorem const_of_holds {q : Rat} (h : p.Holds q) :
    (const q : Extended p) = of (real q) := by
  rw [const_eq, h.read, h.used]

theorem of_add_of (x y : EReal) : (of x + of y : Extended p) = (sum x y).map p.working := rfl

theorem of_mul_of (x y : EReal) : (of x * of y : Extended p) = (product x y).map p.working := rfl

theorem of_div_of (x y : EReal) : (of x / of y : Extended p) = (quotient x y).map p.working := rfl

@[simp] theorem undefined_add (x : Extended p) : undefined + x = undefined := rfl

@[simp] theorem add_undefined (x : Extended p) : x + undefined = undefined := by
  cases x <;> rfl

@[simp] theorem undefined_mul (x : Extended p) : undefined * x = undefined := rfl

@[simp] theorem mul_undefined (x : Extended p) : x * undefined = undefined := by
  cases x <;> rfl

@[simp] theorem undefined_div (x : Extended p) : undefined / x = undefined := rfl

@[simp] theorem undefined_max (x : Extended p) : max undefined x = undefined := rfl

@[simp] theorem max_undefined (x : Extended p) : max x undefined = undefined := by
  cases x <;> rfl

theorem add_of_nonneg (hx : 0 ≤ x) (hy : 0 ≤ y) :
    (of x + of y : Extended p) = of (p.working (x + y)) := by
  have hxbot : x ≠ ⊥ := (EReal.bot_lt_zero.trans_le hx).ne'
  have hybot : y ≠ ⊥ := (EReal.bot_lt_zero.trans_le hy).ne'
  rw [of_add_of, sum, if_neg (by tauto)]
  rfl

/-- Numbers that are not negative have a product, unless one is zero and the other infinite. -/
theorem mul_of_nonneg (hx : 0 ≤ x) (hy : 0 ≤ y) (hleft : x = 0 → y ≠ ⊤) (hright : y = 0 → x ≠ ⊤) :
    (of x * of y : Extended p) = of (p.working (x * y)) := by
  have hxbot : x ≠ ⊥ := (EReal.bot_lt_zero.trans_le hx).ne'
  have hybot : y ≠ ⊥ := (EReal.bot_lt_zero.trans_le hy).ne'
  rw [of_mul_of, product, if_neg (by tauto)]
  rfl

/-- Every number can be divided by a positive finite one. -/
theorem div_of_pos (x : EReal) (hy : 0 < y) (hfinite : y ≠ ⊤) :
    (of x / of y : Extended p) = of (p.working (x / y)) := by
  have hbot : y ≠ ⊥ := (EReal.bot_lt_zero.trans hy).ne'
  have hzero : y ≠ 0 := hy.ne'
  rw [of_div_of, quotient, if_neg (by tauto)]
  rfl

theorem max_of (x y : EReal) : (max (of x) (of y) : Extended p) = of (max x y) := rfl

theorem sqrt_of (h : 0 ≤ x) : sqrt (of x : Extended p) = of (p.working (root x)) := if_neg h.not_gt

theorem le_of_iff : le (of x : Extended p) (of y) ↔ x ≤ y := decide_eq_true_iff

/-- Only numbers compare. -/
theorem le_iff_exists {x y : Extended p} : le x y ↔ ∃ a b, x = of a ∧ y = of b ∧ a ≤ b := by
  constructor
  · intro h
    match x, y with
    | some a, some b => exact ⟨a, b, rfl, rfl, le_of_iff.1 h⟩
    | some _, none | none, _ => exact absurd h Bool.false_ne_true
  · rintro ⟨a, b, rfl, rfl, h⟩
    exact le_of_iff.2 h

/-- A rounding keeps the order of the numbers it is applied to. -/
theorem convert_le {p' : OrderedPrecision} (r : EReal →o EReal) {x y : Extended p} (h : le x y) :
    le (convert r x : Extended p') (convert r y) := by
  obtain ⟨a, b, rfl, rfl, hab⟩ := le_iff_exists.1 h
  exact le_of_iff.2 (r.monotone hab)

theorem clamp_of (h : p.Holds 0) (x : EReal) : clamp (of x : Extended p) = of (max x 0) := by
  rw [clamp, const_of_holds h, max_of, real_zero]

end Extended

end FilmGrain
