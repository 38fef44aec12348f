/-
**The rounding to an integer, on every number of a format.**

The integer below `x + 1 / 2` would be a shorter way to round a half up, but a sum with a half is
itself rounded: just below one half it is carried up to one, and where the spacing is one it moves
an integer.  The rounding of this library adds nothing to the number.  It takes the integer part,
compares the rest with a half, and goes on by one step of at most one.  All three are numbers of the
format, so nothing is rounded on the way, and the result is the sign of the number times the integer
below its magnitude and a half, at every exponent.

As a function on the numbers of a format, infinities and the undefined number included, the rounding
keeps the order and the sign, and a second rounding changes nothing.  This is said of the place of a
number, which is its value for a finite one: a negative number that is rounded to zero gives the
negative zero, and that gives the positive one.

Main definitions:

* `FilmGrain.Number.truncated` — the integer part of a number, towards zero;
* `Binary.RoundsExactly` — the steps of the rounding, none of which rounds.

Main results:

* `FilmGrain.Number.halfAway_eq_sign_mul` — the nearest integer by sign and magnitude;
* `Binary.roundsExactly` — **the rounding of a finite number is exact in each step**;
* `Binary.rank_roundHalfAway_neg`, `Binary.rank_roundHalfAway_roundHalfAway` — **it is odd and
  idempotent**;
* `Binary.roundHalfAway_exact` — all of it, on every number of a format.
-/

import FilmGrain.Proofs.Number.Monotone
import Mathlib.Data.Sign.Basic

set_option autoImplicit false

namespace FilmGrain

namespace Number

/-! ### Rational numbers -/

/-- The integer part of a number, towards zero. -/
def truncated (x : Rat) : Int := SignType.sign x * ⌊|x|⌋

/-- A function of the magnitude that is zero at zero gets the sign of the number. -/
theorem sign_mul_signed {g : Rat → Int} (hzero : g 0 = 0) (negative : Bool) {m : Rat} (hm : 0 ≤ m) :
    ((SignType.sign (signed negative m) * g |signed negative m| : Int) : Rat) =
      signed negative (g m) := by
  rw [abs_signed negative hm]
  rcases hm.eq_or_lt with rfl | hpos
  · cases negative <;> simp [signed, hzero]
  · cases negative <;> simp [signed, hpos]

theorem truncated_signed (negative : Bool) {m : Rat} (hm : 0 ≤ m) :
    (truncated (signed negative m) : Rat) = signed negative ⌊m⌋ :=
  sign_mul_signed (g := fun x => ⌊x⌋) Int.floor_zero negative hm

/-- **The nearest integer by sign and magnitude.** -/
theorem halfAway_eq_sign_mul (x : Rat) : halfAway x = SignType.sign x * ⌊|x| + 1 / 2⌋ := by
  rcases lt_trichotomy x 0 with h | rfl | h
  · simp [halfAway, h, abs_of_neg h]
  · norm_num [halfAway]
  · simp [halfAway, h, h.le, abs_of_pos h]

theorem halfAway_intCast (n : Int) : halfAway n = n := by
  obtain ⟨m, rfl | rfl⟩ := n.eq_nat_or_neg
  · exact_mod_cast halfAway_natCast m
  · rw [Int.cast_neg, halfAway_neg, Int.cast_natCast, halfAway_natCast]

namespace Binary

variable {f : Format}

/-! ### Steps of the rounding -/

/-- The rounding of a number to an integer rounds nothing else: the integer part is exact, so is the
difference from it, and so is the sum with the last step. -/
structure RoundsExactly (x : Binary f) (v : Rat) : Prop where
  whole : x.trunc.toRat = some (truncated v : Rat)
  rest : (x.sub x.trunc).toRat = some (v - truncated v)
  step : ∃ (step : Binary f) (u : Rat), x.roundHalfAway = x.trunc.add step ∧
    step.toRat = some u ∧ |u| ≤ 1 ∧ x.roundHalfAway.toRat = some (truncated v + u)
  value : x.roundHalfAway.toRat = some ((SignType.sign v * ⌊|v| + 1 / 2⌋ : Int) : Rat)

theorem abs_stepAway_le (m : Rat) : |stepAway m| ≤ 1 := by
  rw [stepAway]
  split <;> simp

/-- **The rounding of a finite number is exact in each step.** -/
theorem roundsExactly [f.HasUnits] {x : Binary f} {v : Rat} (hx : x.toRat = some v) :
    x.RoundsExactly v := by
  obtain ⟨negative, p, rfl, rfl⟩ := exists_of_toRat hx
  have hm := f.magnitude_nonneg p
  have hvalue := toRat_roundHalfAway hx
  have hwhole := toRat_trunc negative p
  have hrest := toRat_sub_trunc negative p
  have hstep : ((sign (finite negative p)).mul _).toRat = _ :=
    toRat_signed_step (toRat_step negative p)
  refine ⟨?_, ?_, ⟨_, _, rfl, hstep, ?_, ?_⟩, ?_⟩
  · rwa [truncated_signed negative hm]
  · rw [hrest, truncated_signed negative hm]
    cases negative
    · rfl
    · simp only [signed, if_true, Int.fract]
      ring_nf
  · cases negative <;> simpa [signed] using abs_stepAway_le (f.magnitude p)
  · rw [hvalue, halfAway_signed negative hm, floor_add_half, truncated_signed negative hm]
    cases negative
    · rfl
    · simp only [signed, if_true]
      ring_nf
  · rw [hvalue, halfAway_eq_sign_mul]

/-! ### The rounding as a function -/

theorem rank_neg (x : Binary f) : x.neg.rank = x.rank.map (-·) := by
  cases x with
  | nan => rfl
  | infinite negative => cases negative <;> simp [neg, rank]
  | finite negative p => cases negative <;> simp [neg, rank]

@[simp] theorem roundHalfAway_nan : (nan : Binary f).roundHalfAway = nan := by
  simp [roundHalfAway, trunc]

variable [f.HasUnits]

/-- The place of a rounded number is that of the nearest integer. -/
theorem rank_roundHalfAway {x : Binary f} {v : Rat} (hx : x.toRat = some v) :
    x.roundHalfAway.rank = some (f.place (halfAway v)) :=
  rank_of_toRat (toRat_roundHalfAway hx)

/-- **The rounding is odd.** -/
theorem rank_roundHalfAway_neg (x : Binary f) :
    x.neg.roundHalfAway.rank = x.roundHalfAway.neg.rank := by
  cases x with
  | nan => simp [neg]
  | infinite negative =>
      rw [roundHalfAway_infinite]
      exact congrArg rank (roundHalfAway_infinite (!negative))
  | finite negative p =>
      have hx := toRat_finite negative p
      rw [rank_neg, rank_roundHalfAway (toRat_neg hx), rank_roundHalfAway hx, halfAway_neg,
        Int.cast_neg, f.place_neg]
      rfl

/-- **An integer is rounded to itself.** -/
theorem rank_roundHalfAway_roundHalfAway (x : Binary f) :
    x.roundHalfAway.roundHalfAway.rank = x.roundHalfAway.rank := by
  cases x with
  | nan => simp
  | infinite negative => rw [roundHalfAway_infinite, roundHalfAway_infinite]
  | finite negative p =>
      have hx := toRat_finite negative p
      rw [rank_roundHalfAway (toRat_roundHalfAway hx), rank_roundHalfAway hx, halfAway_intCast]

/-- **The rounding to an integer on every number of a format.**  For a finite number each step is
exact, and the result is the sign times the integer below the magnitude and a half.  Infinities and
the undefined number are kept.  The function keeps the order, commutes with negation and is
idempotent. -/
theorem roundHalfAway_exact :
    (∀ (x : Binary f) (v : Rat), x.toRat = some v → x.RoundsExactly v) ∧
    (∀ negative, (infinite negative : Binary f).roundHalfAway = infinite negative) ∧
    (nan : Binary f).roundHalfAway = nan ∧
    (∀ x y : Binary f, x.le y → x.roundHalfAway.le y.roundHalfAway) ∧
    (∀ x : Binary f, x.neg.roundHalfAway.rank = x.roundHalfAway.neg.rank) ∧
    ∀ x : Binary f, x.roundHalfAway.roundHalfAway.rank = x.roundHalfAway.rank :=
  ⟨fun _ _ => roundsExactly, roundHalfAway_infinite, roundHalfAway_nan, fun _ _ => roundHalfAway_le,
    rank_roundHalfAway_neg, rank_roundHalfAway_roundHalfAway⟩

/-- The number before one half is rounded to zero in single precision, and the odd integer after the
power of two at which the spacing becomes one is kept in double precision. -/
theorem roundHalfAway_exact_edges :
    (ofBits 0x3effffff : Single).toRat = some (1 / 2 - 1 / 2 ^ 25) ∧
      (ofBits 0x3effffff : Single).roundHalfAway.toRat = some 0 ∧
      (ofBits 0x4330000000000001 : Double).toRat = some (2 ^ 52 + 1) ∧
      (ofBits 0x4330000000000001 : Double).roundHalfAway.toRat = some (2 ^ 52 + 1) := by
  have hhalf : (ofBits 0x3effffff : Single).toRat = some (1 / 2 - 1 / 2 ^ 25) := by decide +kernel
  have hunit : (ofBits 0x4330000000000001 : Double).toRat = some (2 ^ 52 + 1) := by decide +kernel
  have hfirst := (roundHalfAway_exact.1 _ _ hhalf).value
  have hsecond := (roundHalfAway_exact.1 _ _ hunit).value
  refine ⟨hhalf, ?_, hunit, ?_⟩
  · rw [hfirst]
    norm_num
  · rw [hsecond]
    norm_num

/-- The sign of a zero is not kept. -/
example : (zero true : Single).roundHalfAway = zero false := by decide +kernel

end Binary

end Number

end FilmGrain
